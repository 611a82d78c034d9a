import TextCriteria.Text.Blank
import TextCriteria.Text.Pieces

namespace TextCriteria

open TextCriteria.Text

/-!
# Rule strings

A rule string lists rules with bars between them. A rule is a name, or a name and a parameter with a
colon between them; only the first colon counts, and blanks around names and parameters do not.

* `RuleToken` — a rule with its parameter, if it has one.
* `RuleString.parse` — the rules of a string; `RuleString.render`, a string of some rules.
-/

/-- A name and a parameter, if there is one. -/
structure RuleToken where
  name : String
  param : Option String
  deriving DecidableEq, Repr

namespace RuleString

/-- The rule that a piece states. -/
def token (piece : List Char) : RuleToken :=
  let piece := trim piece
  let name := String.ofList (trim (piece.takeWhile fun c => c != ':'))
  match piece.dropWhile fun c => c != ':' with
  | [] => ⟨name, none⟩
  | _ :: param => ⟨name, some (String.ofList (trim param))⟩

/-- The rules of a string. -/
def parse (rules : String) : List RuleToken :=
  (pieces '|' rules.toList).map token

/-- How a rule is written. -/
def renderToken (t : RuleToken) : String :=
  match t.param with
  | none => t.name
  | some param => t.name ++ ":" ++ param

/-- How rules are written. -/
def render (tokens : List RuleToken) : String :=
  "|".intercalate (tokens.map renderToken)

end RuleString
end TextCriteria
