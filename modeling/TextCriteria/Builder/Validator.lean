import TextCriteria.Builder.Basic
import TextCriteria.Failure.Given

namespace TextCriteria

open TextCriteria.Pattern

/-!
# Validators

A validator is the requirements of a builder at one moment, as a check on single values.

* `Builder.validator` — the validator of a builder.
* `Validator.checkText`, `Validator.check` — a value as text, if it meets the requirements.
* `Validator.read`, `Validator.readOptional` — the same with complaints, for a text and for a text or
  nothing.
-/

/-- Requirements with the one pattern for all of them. -/
structure Validator where
  requirements : List Requirement
  flags : Flags
  pattern : Compiled
  deriving Repr

/-- The validator of a builder, which does not follow it any further. -/
def Builder.validator (b : Builder) : Except Failure Validator := do
  .ok { requirements := b.requirements, flags := b.flags, pattern := ← b.build }

/-- What is said about a text that meets each requirement and is refused all the same. -/
def emptyMessage : String := "Value must not be empty"

/-- Messages with semicolons between them. -/
def joinMessages (messages : List Value) : Except Failure String := do
  Value.checkTexts messages
  .ok ("; ".intercalate (messages.filterMap Value.asText?))

namespace Validator

/-- A text passes if it meets the requirements. -/
def checkText (v : Validator) (s : String) : Except Failure Value :=
  if v.pattern.accepts s then .ok (.str s)
  else do
    let failed ← diagnose v.requirements s v.flags
    -- The pattern for all asks for a character on top of what each requirement says.
    let failed := if failed.isEmpty then [.str emptyMessage] else failed
    .error (.unmet (← joinMessages failed))

/-- Nothing passes as it is; every other value is made a text, if it has one. -/
def check (v : Validator) (value : Value) : Except Failure Value :=
  match value with
  | .null => .ok .null
  | value => do v.checkText (← value.text)

/-- A value that has to be a text after the check. A value without a text is complained about, as one that does
    not meet the requirements is. -/
def read (v : Validator) (value : Value) : Except Failure (Checked String) :=
  match v.check value with
  | .ok (.str s) => .ok (.ok s)
  | .ok _ => .ok (.error [⟨.stringType, []⟩])
  | .error (.unmet text) => .ok (.error [⟨.unmet text, []⟩])
  | .error (.outOfRange text) => .ok (.error [⟨.valueError text, []⟩])
  | .error f => .error f

/-- A value that may be nothing. -/
def readOptional (v : Validator) (value : Value) : Except Failure (Checked (Option String)) :=
  match value with
  | .null => .ok (.ok none)
  | value => do
    match ← v.read value with
    | .ok s => .ok (.ok (some s))
    | .error e => .ok (.error e)

end Validator
end TextCriteria
