namespace TextCriteria

/-!
# Kinds of presets

* `PresetType` — the kinds of text for which there are ready-made groups of requirements.
-/

/-- The kinds, in catalog order. -/
inductive PresetType
  | password
  | username
  deriving DecidableEq, Repr

namespace PresetType

/-- All kinds in order. -/
def all : List PresetType := [.password, .username]

/-- How a kind is written. -/
def code : PresetType → String
  | .password => "password"
  | .username => "username"

/-- The name of a kind. -/
def label : PresetType → String
  | .password => "PASSWORD"
  | .username => "USERNAME"

/-- The kind that is written in a given way. -/
def withCode? (code : String) : Option PresetType :=
  all.find? fun t => t.code == code

end PresetType
end TextCriteria
