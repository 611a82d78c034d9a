import TextCriteria.Builder.Change
import TextCriteria.Composition
import TextCriteria.Settings.Leaf

namespace TextCriteria

open TextCriteria.Pattern

/-!
# Builders

A builder collects requirements and tests texts against them.

* `Builder` — the settings and flags it was made with, and its requirements.
* `Builder.flags` — the flags as a number. What is no number is kept too, and refused when a pattern is compiled.
* `Builder.call` — a call adds requirements at the end and changes nothing else.
* `Builder.build`, `Builder.failed`, `Builder.testOne`, `Builder.overview` — what a builder tells.
* `Validator` — the requirements of a builder at one moment, as a check on single values.
-/

/-- A collection of requirements, with the flags as they were given. -/
structure Builder where
  settings : Settings
  given : Value
  requirements : List Requirement := []
  deriving Repr

/-- The flags that a value stands for. The library of patterns refuses what is no number. -/
def Value.flags? : Value → Except Failure Flags
  | .int n => .ok n
  | .bool b => .ok (if b then 1 else 0)
  | v =>
    match v.unhashable? with
    -- Patterns are looked up by their flags first.
    | some kind => .error (.unhashable kind)
    | none => .error (.flagsKind v.fullKind)

/-- Flags that no pattern can be compiled under. -/
def unusableFlags : Flags := 2147483648

/-- The same as a number, which is none that can be used if the value is no number. -/
def Value.flags (v : Value) : Flags := v.flags?.toOption.getD unusableFlags

namespace Builder

/-- The flags of a builder. -/
def flags (b : Builder) : Flags := b.given.flags

/-- A builder without requirements. Flags that are not given are those of the settings. -/
def create (flags : Value) (settings : Settings) : Builder :=
  { settings, given := flags.getD settings.flags }

/-- How a builder is shown, with the flags as they were given. -/
def shown (b : Builder) : Except Failure String := do
  .ok ("RegexCraft(requirements=" ++ toString b.requirements.length ++ ", flags=" ++
    (← b.given.text) ++ ")")

/-- A builder with more requirements. -/
def append (b : Builder) (added : List Requirement) : Builder :=
  { b with requirements := b.requirements ++ added }

/-- What a call does on a builder. -/
def change (b : Builder) (c : Call) : Change := c.change b.settings

/-- The builder after a call. -/
def call (b : Builder) (c : Call) : Builder := b.append (b.change c).added

/-- The one pattern for all requirements. -/
def build (b : Builder) : Except Failure Compiled := do
  compose b.requirements (← b.given.flags?)

/-- The note on a pattern that was put together. -/
def buildNote (b : Builder) : Note :=
  ⟨.composer, "组合正则完成，共 " ++ toString b.requirements.length ++ " 条要求: " ++
    composedText b.requirements⟩

/-- Only texts are tested. -/
def subject : Value → Except Failure String
  | .str s => .ok s
  | .choice c => .ok c.code
  | v => .error (.notText v.fullKind)

/-- The messages of the requirements that a value does not meet. Without requirements the value is
    not looked at. -/
def failed (b : Builder) (value : Value) : Except Failure (List Value) :=
  match b.requirements with
  | [] => .ok []
  | r :: rest => do
    let flags ← b.given.flags?
    let _ ← r.compileAlone flags
    let s ← subject value
    diagnose (r :: rest) s flags

/-- Whether a value meets all requirements. -/
def isValid (b : Builder) (value : Value) : Except Failure Bool := do
  let c ← b.build
  let s ← subject value
  .ok (c.accepts s)

end Builder

/-- The result of a test. -/
structure TestResult where
  value : String
  isValid : Bool
  failed : List String
  deriving DecidableEq, Repr

/-- What a builder asks for. -/
structure Overview where
  pattern : String
  requirements : List String
  deriving DecidableEq, Repr

/-- Messages as texts; those that are none are complained about by their index. -/
def messageTexts (field : String) (messages : List Value) : Except Failure (List String) :=
  let complaints := messages.zipIdx.filterMap fun (v, i) =>
    match readText v with
    | .ok _ => none
    | .error p => some ⟨p, [.field field, .index i]⟩
  if complaints.isEmpty then .ok (messages.filterMap fun v => (readText v).toOption)
  else .error (.invalid complaints)

namespace Builder

/-- Tests a value against all requirements together and each of them alone. -/
def testOne (b : Builder) (value : Value) : Except Failure TestResult := do
  let c ← b.build
  let s ← subject value
  let failed ← diagnose b.requirements s b.flags
  let failed ← messageTexts "failed_requirements" failed
  .ok { value := s, isValid := c.accepts s, failed }

/-- The pattern of a builder and its messages. -/
def overview (b : Builder) : Except Failure Overview := do
  let c ← b.build
  let requirements ← messageTexts "requirements" (b.requirements.map (·.message))
  .ok { pattern := c.text, requirements }

end Builder
end TextCriteria
