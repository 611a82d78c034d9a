namespace TextCriteria

/-!
# Fragments

A fragment is a piece of pattern that states one condition on a whole text. It is either looked for
from the start of the text, or it has to fit the text from end to end.

* `Fragment.render` — the pattern of a fragment on its own.
* `Fragment.asLookahead` — the same condition without consuming anything, for use in a row.
-/

/-- The two kinds of fragments. -/
inductive FragmentKind
  | lookahead
  | anchored
  deriving DecidableEq, Repr

/-- How a kind is written. -/
def FragmentKind.code : FragmentKind → String
  | .lookahead => "lookahead"
  | .anchored => "anchored"

/-- A piece of pattern with its kind. -/
structure Fragment where
  kind : FragmentKind
  body : String
  deriving DecidableEq, Repr

namespace Fragment

def lookahead (body : String) : Fragment := ⟨.lookahead, body⟩
def anchored (body : String) : Fragment := ⟨.anchored, body⟩

/-- The pattern of a fragment on its own. -/
def render (f : Fragment) : String :=
  match f.kind with
  | .lookahead => "(?=" ++ f.body ++ ")"
  | .anchored => "^(?:" ++ f.body ++ ")\\Z"

/-- A pattern that consumes nothing and asks for the same. -/
def asLookahead (f : Fragment) : String :=
  match f.kind with
  | .lookahead => f.render
  | .anchored => "(?=" ++ f.render ++ ")"

end Fragment
end TextCriteria
