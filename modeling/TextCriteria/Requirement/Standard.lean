import TextCriteria.Arguments
import TextCriteria.Requirement.Factory

namespace TextCriteria

/-!
# Standard requirements by name

* `Requirement.form?` — the parameters of a standard requirement, and the requirement for values.
* `Requirement.atLeastFor` — a count of a caller's class of characters.
-/

namespace Requirement

/-- A standard requirement: its name, its parameters, and the requirement with their values. -/
structure Form where
  operation : Operation
  make : List Value → Except Failure (Option Requirement)

/-- A parameter for a message that may be left out. -/
def messageParameter : Parameter := .optional "message"

/-- A form with a message alone. -/
def shapeForm (name : String) (make : Value → Requirement) : Form where
  operation := ⟨name, [messageParameter]⟩
  make
  | [m] => .ok (some (make m))
  | _ => .ok none

/-- A form with a choice and a message. -/
def choiceForm (name : String) (p : Parameter)
    (make : Value → Value → Except Failure Requirement) : Form where
  operation := ⟨name, [p, messageParameter]⟩
  make
  | [v, m] => do .ok (some (← make v m))
  | _ => .ok none

/-- A form with a count and a message. -/
def countForm (name : String) (p : Parameter) (make : Nat → Value → Requirement) : Form where
  operation := ⟨name, [p, messageParameter]⟩
  make
  | [v, m] => do
    let n ← count? p.name v
    .ok (some (make (← writable? n) m))
  | _ => .ok none

/-- A form that counts characters of a kind. -/
def charactersForm (name : String) (kind : CharacterKind) : Form :=
  countForm name (.withDefault "count" (.int 1)) (characters kind)

/-- All standard requirements. -/
def forms : List Form :=
  [ countForm "min_length" (.needed "length") minLength,
    countForm "max_length" (.needed "length") maxLength,
    { operation := ⟨"length_between", [.needed "min_length", .needed "max_length", messageParameter]⟩
      make
      | [least, most, m] => do
        let least ← count? "min_length" least
        let most ← count? "max_length" most
        .ok (some (lengthBetween (← writable? least) (← writable? most) m))
      | _ => .ok none },
    countForm "exact_length" (.needed "length") exactLength,
    shapeForm "required" required,
    charactersForm "letters" .letter,
    charactersForm "lowercase" .lowercase,
    charactersForm "uppercase" .uppercase,
    charactersForm "digits" .digit,
    charactersForm "special_characters" .special,
    shapeForm "email" email,
    choiceForm "url" (.withDefault "protocol" (.bool true)) fun v m => .ok (url v.isTrue m),
    shapeForm "ipv4" ipv4,
    choiceForm "date" (.withDefault "date_format" (.choice (.template .yearMonthDay))) date,
    choiceForm "phone" (.withDefault "region" (.choice (.region .international))) phone]

/-- The standard requirement with a name. -/
def form? (name : String) : Option Form :=
  forms.find? fun f => f.operation.name == name

/-- The requirement of a form for arguments in order. -/
def Form.apply (f : Form) (arguments : List Value) : Except Failure (Option Requirement) := do
  f.make (← f.operation.inOrder arguments)

/-- At least so many characters of a caller's class. -/
def atLeastFor (members : String) (n : Value) : Except Failure Fragment := do
  .ok (atLeast members (← writable? (← count? "count" n)))

end Requirement
end TextCriteria
