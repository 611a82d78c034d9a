import TextCriteria.Failure.Basic
import TextCriteria.Pattern.Compiled
import TextCriteria.Requirement.Basic

namespace TextCriteria

open TextCriteria.Pattern

/-!
# Composition and diagnosis

Requirements are put together into one pattern that accepts the texts that meet all of them, and
a text is tested against each of them alone to say which it does not meet.

* `composedText` — the text of the one pattern.
* `compose` — the pattern itself, after every fragment has been compiled alone.
* `diagnose` — the messages of the requirements that a text does not meet.
-/

/-- The pattern of no requirements: it accepts every text. -/
def acceptAll : String := "^(?s:.*)\\Z"

/-- The last part of every other pattern: the whole text, which must not be empty. -/
def consumeAll : String := "(?s:.+)"

/-- The text of the one pattern for some requirements. -/
def composedText (rs : List Requirement) : String :=
  if rs.isEmpty then acceptAll
  else "^" ++ String.join (rs.map fun r => r.fragment.asLookahead) ++ consumeAll ++ "\\Z"

/-- The failure for a refused pattern; a malformed text is reported with its requirement. -/
def patternFailure (text : String) (requirement : Value) : Refusal → Failure
  | .malformed cause left =>
    .record (.pattern (.str text) (.str (cause.reason text.toList left)) requirement)
  | refusal => .refused refusal

/-- Compiles the text of a pattern. -/
def compileFor (text : String) (flags : Flags) (requirement : Value) : Except Failure Compiled :=
  match compile text flags with
  | .ok c => .ok c
  | .error refusal => .error (patternFailure text requirement refusal)

/-- Compiles the fragment of a requirement alone. -/
def Requirement.compileAlone (r : Requirement) (flags : Flags) : Except Failure Compiled :=
  compileFor r.fragment.render flags r.message

/-- The one pattern. Fragments are compiled alone first, so that one that is malformed is reported
    and cannot become well-formed by what stands beside it. -/
def compose (rs : List Requirement) (flags : Flags) : Except Failure Compiled := do
  let _ ← rs.mapM fun r => r.compileAlone flags
  compileFor (composedText rs) flags .null

/-- The messages of the requirements that a text does not meet, in order. -/
def diagnose (rs : List Requirement) (value : String) (flags : Flags) :
    Except Failure (List Value) :=
  match rs with
  | [] => .ok []
  | r :: rest => do
    let c ← r.compileAlone flags
    let failed ← diagnose rest value flags
    .ok (if c.accepts value then failed else r.message :: failed)

end TextCriteria
