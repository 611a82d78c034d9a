import TextCriteria.Fragment
import TextCriteria.Value

namespace TextCriteria

/-!
# Requirements

* `Requirement` — a fragment with the message for texts that do not meet it.
* `Requirement.of` — a fragment with a message of the caller, or a standard one where none is given.
-/

/-- A condition on texts and what is said when it is not met. -/
structure Requirement where
  fragment : Fragment
  message : Value
  deriving Repr

/-- A requirement with the caller's message if it counts as given, else with a standard one. -/
def Requirement.of (fragment : Fragment) (message : Value) (standard : String) : Requirement :=
  ⟨fragment, message.orElse (.str standard)⟩

end TextCriteria
