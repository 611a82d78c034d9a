import TextCriteria.Value

namespace TextCriteria

open TextCriteria.Text

/-!
# Failures with data

* `FailureCode` — the codes of failures.
* `Record` — a failure with a message, a code, details and further data.
* `Record.presetNotFound`, `Record.unknownRule`, `Record.ruleParameter`, `Record.pattern` — the
  records that the library makes.
* `Record.toValue` — a record as a mapping.
-/

/-- The codes of failures. -/
inductive FailureCode
  | general
  | presetNotFound
  | unknownRule
  | invalidRuleParameter
  | invalidPattern
  deriving DecidableEq, Repr

namespace FailureCode

/-- All codes in order. -/
def all : List FailureCode :=
  [.general, .presetNotFound, .unknownRule, .invalidRuleParameter, .invalidPattern]

/-- How a code is written. -/
def code : FailureCode → String
  | .general => "REGEXCRAFT_ERROR"
  | .presetNotFound => "PRESET_NOT_FOUND"
  | .unknownRule => "UNKNOWN_RULE"
  | .invalidRuleParameter => "INVALID_RULE_PARAMETER"
  | .invalidPattern => "INVALID_PATTERN"

/-- The code that is written in a given way. -/
def withCode? (code : String) : Option FailureCode :=
  all.find? fun c => c.code == code

end FailureCode

/-- The kinds of failures that carry data. -/
inductive RecordKind
  | general
  | presetNotFound
  | unknownRule
  | ruleParameter
  | pattern
  deriving DecidableEq, Repr

/-- The code of a record: one of the known ones or a value of the caller. -/
inductive RecordCode
  | known (c : FailureCode)
  | custom (v : Value)
  deriving Repr

/-- A failure with a message, a code, details and further data in order. -/
structure Record where
  kind : RecordKind
  message : Value
  code : RecordCode
  details : Value
  extra : List (String × Value)
  deriving Repr

namespace Record

/-- The name of a kind of record. -/
def label : RecordKind → String
  | .general => "RegexCraftException"
  | .presetNotFound => "PresetNotFoundError"
  | .unknownRule => "UnknownRuleError"
  | .ruleParameter => "RuleParameterError"
  | .pattern => "PatternError"

/-- A record of the general kind. Details that do not count as given are none. -/
def general (message : Value) (code : RecordCode) (details : Value)
    (extra : List (String × Value)) : Record :=
  { kind := .general, message, code, details := details.orElse (.list []), extra }

/-- The levels, which are texts, with commas between them. -/
def levelList (levels : List Value) : String :=
  ", ".intercalate (levels.filterMap Value.asText?)

/-- The text of a value in a message. Whoever makes a record sees to it that there is one. -/
def written (v : Value) : String := v.text?.getD ""

/-- The same with quotes around a text. -/
def writtenQuoted (v : Value) : String := v.shown?.getD ""

/-- There is no preset of a type at a level. -/
def presetNotFound (type level : Value) (available : List Value) : Record where
  kind := .presetNotFound
  message := .str ("Preset not found: " ++ written type ++ ":" ++ written level)
  code := .known .presetNotFound
  details := .list (if available.isEmpty then [] else
    [.str ("Available levels: " ++ levelList available)])
  extra := [("preset_type", type), ("level", level), ("available_levels", .list available)]

/-- A rule string names a rule that does not exist. -/
def unknownRule (name rules : Value) : Record where
  kind := .unknownRule
  message := .str ("Unknown validation rule: " ++ written name)
  code := .known .unknownRule
  details := .list []
  extra := [("rule_name", name), ("rules", rules)]

/-- A rule that needs a number was given none. -/
def ruleParameter (name param : Value) : Record where
  kind := .ruleParameter
  message := .str ("Invalid parameter for rule " ++ written name ++ ": " ++ writtenQuoted param)
  code := .known .invalidRuleParameter
  details := .list []
  extra := [("rule_name", name), ("param", param)]

/-- A fragment is no pattern. The requirement, if there is one, is named by its message. -/
def pattern (text reason requirement : Value) : Record where
  kind := .pattern
  message := .str ("Invalid pattern " ++ writtenQuoted text ++ ": " ++ written reason)
  code := .known .invalidPattern
  details := .list (if requirement.isTrue then [requirement] else [])
  extra := [("pattern", text), ("requirement", requirement)]

/-- The code as a value. -/
def codeValue : RecordCode → Value
  | .known c => .str c.code
  | .custom v => v

/-- The data of a record. -/
def toValue (r : Record) : Value :=
  .dict [(.str "message", r.message), (.str "code", codeValue r.code), (.str "details", r.details),
    (.str "extra", .dict (r.extra.map fun e => (.str e.1, e.2)))]

end Record

end TextCriteria
