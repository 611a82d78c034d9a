import TextCriteria.Failure.Basic
import TextCriteria.Text.LetterCase

namespace TextCriteria.Log

open TextCriteria.Text

/-!
# Levels

* `Level` — how much a message matters, as a number.
* `Level.ofName` — the level that a name in any case stands for; names of no level mean `info`, but for two
  names that stand for something else.
* `Level.label` — how a level is named in lines.
-/

/-- How much a message matters. -/
abbrev Level := Int

namespace Level

/-- Not set: the level of the logger above counts. -/
def unset : Level := 0

/-- Details that help to find faults. -/
def debug : Level := 10

/-- What happens as it should. -/
def info : Level := 20

/-- What may not be as it should. -/
def warning : Level := 30

/-- The names of levels. The first name of a level is the one that lines show. -/
def names : List (String × Level) :=
  [ ("CRITICAL", 50), ("FATAL", 50), ("ERROR", 40), ("WARNING", warning), ("WARN", warning),
    ("INFO", info), ("DEBUG", debug), ("NOTSET", unset)]

/-- A name that stands for a format and for no level. -/
def formatName : String := "BASIC_FORMAT"

/-- The format that this name stands for. -/
def formatText : String := "%(levelname)s:%(name)s:%(message)s"

/-- A name that stands for a table of styles and for no level. -/
def stylesName : String := "_STYLES"

/-- The styles in this table: the sign, the class and the format of each. -/
def styles : List (String × String × String) :=
  [ ("%", "PercentStyle", formatText),
    ("\x7b", "StrFormatStyle", "\x7blevelname\x7d:\x7bname\x7d:\x7bmessage\x7d"),
    ("$", "StringTemplateStyle", "$\x7blevelname\x7d:$\x7bname\x7d:$\x7bmessage\x7d")]

/-- How this table is shown. -/
def stylesText : String :=
  "\x7b" ++ ", ".intercalate (styles.map fun s =>
    quoted s.1 ++ ": (<class 'logging." ++ s.2.1 ++ "'>, " ++ quoted s.2.2 ++ ")") ++ "\x7d"

/-- The level that a name stands for. -/
def ofName (name : String) : Except Failure Level :=
  let name := upperCase name
  if name == formatName then .error (.logLevel (quoted formatText))
  else if name == stylesName then .error (.levelKind stylesText)
  else .ok ((names.lookup name).getD info)

/-- How a level is named in lines. -/
def label (level : Value) : Except Failure String :=
  let known := names.find? fun n =>
    match level with
    | .int k => n.2 == k
    | .bool b => n.2 == (if b then 1 else 0)
    | .float x => Float.ofInt n.2 == x
    | _ => false
  match known with
  | some n => .ok n.1
  | none => do .ok ("Level " ++ (← level.text))

end Level
end TextCriteria.Log
