import TextCriteria.Requirement.Factory

namespace TextCriteria

/-!
# Presets

Ready-made groups of requirements, by kind of text and level.

* `Preset.levels` — the levels of a kind, in order.
* `Preset.group?` — the requirements of a level.
* `Preset.lookup` — the same for a caller's values.
-/

namespace Preset

/-- The special characters that count in passwords. -/
def specialMembers : String := "!@#$%^&*"

/-- At least so many characters, in the words of presets. -/
def chars (n : Nat) : Requirement :=
  ⟨.lookahead (".\x7b" ++ Text.decimal n ++ ",\x7d"),
    .str ("At least " ++ Text.decimal n ++ " characters")⟩

/-- A count of characters, in the words of presets. -/
def counted (members : String) (n : Nat) (message : String) : Requirement :=
  ⟨Requirement.atLeast members n, .str message⟩

/-- A lowercase letter. -/
def lower : Requirement :=
  counted CharacterKind.lowercase.members 1 "At least one lowercase letter"

/-- An uppercase letter. -/
def upper : Requirement :=
  counted CharacterKind.uppercase.members 1 "At least one uppercase letter"

/-- A digit. -/
def digit : Requirement := counted CharacterKind.digit.members 1 "At least one number"

/-- The groups of a kind, by level. -/
def groups : PresetType → List (String × List Requirement)
  | .password =>
    [("low", [chars 6, digit]),
      ("medium", [chars 8, digit, lower, upper]),
      ("high",
        [chars 10, counted CharacterKind.digit.members 2 "At least two numbers", lower, upper,
          counted specialMembers 1 "At least one special character"])]
  | .username =>
    [("standard",
        [⟨.anchored "[a-zA-Z][a-zA-Z0-9_]\x7b2,29\x7d",
          .str "Letters, numbers and underscore only, at least 2 characters"⟩]),
      ("strict",
        [⟨.anchored "[a-zA-Z][a-zA-Z0-9]\x7b5,29\x7d",
          .str "Letters and numbers only, at least 5 characters"⟩])]

/-- The levels of a kind, in order. -/
def levels (type : PresetType) : List String :=
  (groups type).map (·.1)

/-- The requirements of a level. -/
def group? (type : PresetType) (level : String) : Option (List Requirement) :=
  (groups type).lookup level

end Preset

/-- The kind that a value stands for. -/
def PresetType.ofValue? : Value → Option PresetType
  | .choice (.preset t) => some t
  | .str s => PresetType.withCode? s
  | _ => none

namespace Preset

/-- The levels of the kind that a value stands for, none if there is no such kind. -/
def levelsFor (type : Value) : List String :=
  match PresetType.ofValue? type with
  | some t => levels t
  | none => []

/-- There is no preset for a caller's kind and level, which the failure names by their texts. -/
def missing {α : Type} (type level : Value) (available : List String) : Except Failure α := do
  let type ← type.text
  let level ← level.text
  .error (.record (.presetNotFound (.str type) (.str level) (available.map .str)))

/-- The requirements for a caller's kind and level. -/
def lookup (type level : Value) : Except Failure (PresetType × List Requirement) :=
  match PresetType.ofValue? type with
  | none => missing type level []
  | some t =>
    match level.unhashable? with
    -- What cannot be a key cannot be looked up either.
    | some kind => .error (.unhashable kind)
    | none =>
      let found := match level with
        | .str s => group? t s
        | _ => none
      match found with
      | some group => .ok (t, group)
      | none => missing (.str t.code) level (levels t)

end Preset
end TextCriteria
