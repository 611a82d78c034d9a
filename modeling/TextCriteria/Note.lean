namespace TextCriteria

/-!
# Notes

Operations leave notes for the log about what they did.

* `Topic` — the parts of the library that leave notes.
* `Note` — a note.
-/

/-- The parts of the library that leave notes. -/
inductive Topic
  | builder
  | rules
  | composer
  | catalogs
  deriving DecidableEq, Repr

/-- The logger that takes the notes of a part. -/
def Topic.loggerName : Topic → String
  | .builder => "regexcraft.builder"
  | .rules => "regexcraft.rules"
  | .composer => "regexcraft.composer"
  | .catalogs => "regexcraft.catalogs"

/-- A note for the log. -/
structure Note where
  topic : Topic
  text : String
  deriving DecidableEq, Repr

end TextCriteria
