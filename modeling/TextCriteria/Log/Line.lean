import TextCriteria.Log.Level
import TextCriteria.Log.Moment
import TextCriteria.Log.Template
import TextCriteria.Pattern.Compiled

namespace TextCriteria.Log

open TextCriteria.Pattern

/-!
# Lines of a log

* `LineFormat` — a template for lines, and whether moments show microseconds.
* `LineFormat.create` — the format for a caller's values; a template has to refer to some field.
* `LineFormat.time` — how a moment is written.
* `LineFormat.line` — the line of a message.
-/

/-- What is known about a message. -/
structure Message where
  logger : String
  level : Value
  text : Value
  created : Value
  deriving Repr

/-- How lines are written. -/
structure LineFormat where
  template : String
  microseconds : Bool
  deriving DecidableEq, Repr

namespace LineFormat

/-- The template that is used where none is given. -/
def standardTemplate : String := "%(asctime)s %(levelname)-5s [%(name)s] %(message)s"

/-- How moments are written. -/
def standardTime : String := "%Y-%m-%d %H:%M:%S"

/-- The pattern of a reference to a field. -/
def referencePattern : String :=
  "%\\(\\w+\\)[#0+ -]*(\\*|\\d+)?(\\.(\\*|\\d+))?[diouxefgcrsa%]"

/-- Whether a template refers to a field anywhere. -/
def refersToField (template : String) : Bool :=
  match compile referencePattern 2 with
  | .error _ => false
  | .ok c =>
    let text := template.toList.toArray
    (List.range (text.size + 1)).any fun i => (c.tree.matchAt text c.flags.modes i).isSome

/-- The format for a caller's template and choice of microseconds. -/
def create (template microseconds : Value) : Except Failure LineFormat :=
  let template := template.orElse (.str standardTemplate)
  match template.asText? with
  | some t =>
    if refersToField t then .ok ⟨t, microseconds.isTrue⟩ else do .error (.logFormat (← template.text))
  | none => .error (.notText template.fullKind)

/-- The name of a format. -/
def label (f : LineFormat) : String :=
  if f.microseconds then "MicrosecondFormatter" else "Formatter"

/-- Digits of a number up to a width. -/
def digits (width n : Nat) : String := number none .zeros width n

/-- The thousandths of a second in a number of seconds, towards zero. -/
def milliseconds (created : Value) : Int :=
  let x := numberOf created
  wholeSeconds ((x - Float.ofInt (wholeSeconds x)) * 1000.0)

/-- Three places for thousandths, of which a minus sign takes one. -/
def threePlaces (n : Int) : String :=
  if n < 0 then "-" ++ digits 2 n.natAbs else digits 3 n.natAbs

/-- A moment in a template. Without a template the standard one is used, and formats without
    microseconds add milliseconds. -/
def time (f : LineFormat) (created : Value) (template : String) : String :=
  if f.microseconds then
    let m := Moment.rounded created
    m.write (if template.isEmpty then standardTime else template) ++ "." ++
      digits 6 (m.microsecond.getD 0)
  else
    let m := Moment.ofSeconds created
    if template.isEmpty then m.write standardTime ++ "," ++ threePlaces (milliseconds created)
    else m.write template

/-- Whether a text occurs in another one. -/
def occursIn (part : List Char) : List Char → Bool
  | [] => part.isEmpty
  | c :: rest => part.isPrefixOf (c :: rest) || occursIn part rest

/-- Whether lines show when a message was made. -/
def showsTime (f : LineFormat) : Bool := occursIn "%(asctime)".toList f.template.toList

/-- The fields of a message. -/
def fields (f : LineFormat) (m : Message) : Except Failure Fields := do
  let label ← Level.label m.level
  let text ← m.text.text
  .ok <|
    [ ("name", .str m.logger), ("msg", m.text), ("args", .null),
      ("levelname", .str label), ("levelno", m.level), ("pathname", .str "f.py"),
      ("filename", .str "f.py"), ("module", .str "f"), ("exc_info", .null), ("exc_text", .null),
      ("stack_info", .null), ("lineno", .int 1), ("funcName", .null), ("created", m.created),
      ("msecs", .float (Float.ofInt (milliseconds m.created))), ("threadName", .str "MainThread"),
      ("processName", .str "MainProcess"),
      ("message", .str text)] ++
    (if f.showsTime then [("asctime", .str (f.time m.created standardTime))] else [])

/-- The line of a message. -/
def line (f : LineFormat) (m : Message) : Except Failure String := do
  fillTemplate f.template (← f.fields m)

end LineFormat
end TextCriteria.Log
