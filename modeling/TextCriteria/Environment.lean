import TextCriteria.Text.LetterCase

namespace TextCriteria

open TextCriteria.Text

/-!
# The environment

Variables have names and texts. Names that differ in case name different variables, but a look-up
without regard to case finds them all and takes the last one.

* `Environment.put`, `Environment.drop` — a variable set and removed.
* `Environment.value?` — the look-up without regard to case.
-/

/-- The variables, in the order in which they were set first. -/
structure Environment where
  entries : List (String × String) := []
  deriving DecidableEq, Repr

/-- A text with every letter in lower case. One letter keeps its dot as a mark of its own. -/
def lowerCase (s : String) : String :=
  String.ofList (s.toList.flatMap fun c =>
    if c == '\u0130' then ['i', '\u0307'] else [Char.ofNat (lower c.toNat)])

/-- Entries with one more, which replaces the value of an earlier one of its name. -/
def putText (name text : String) : List (String × String) → List (String × String)
  | [] => [(name, text)]
  | (n, t) :: rest => if n == name then (n, text) :: rest else (n, t) :: putText name text rest

namespace Environment

/-- The environment after a variable was set. -/
def put (env : Environment) (name text : String) : Environment :=
  ⟨putText name text env.entries⟩

/-- The environment after a variable was removed. -/
def drop (env : Environment) (name : String) : Environment :=
  ⟨env.entries.filter fun v => v.1 != name⟩

/-- The text of the last variable with a name in any case. -/
def value? (env : Environment) (name : String) : Option String :=
  (env.entries.reverse.find? fun v => lowerCase v.1 == lowerCase name).map (·.2)

end Environment
end TextCriteria
