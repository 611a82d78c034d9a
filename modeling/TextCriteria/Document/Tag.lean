import TextCriteria.Pattern.Compiled

namespace TextCriteria.Document

open TextCriteria.Pattern

/-!
# Tags

A tag tells what a node stands for. A scalar that is written without marks and without a tag gets one
from its text.

* `Tag` — the tags of the standard kinds.
* `Tag.ofText` — the tag that the text of a plain scalar tells.
-/

namespace Tag

/-- Standard tags begin with this. -/
def standard (name : String) : String := "tag:yaml.org,2002:" ++ name

/-- The tag of a text. -/
def text : String := standard "str"

/-- The tag of a list. -/
def list : String := standard "seq"

/-- The tag of a mapping. -/
def mapping : String := standard "map"

/-- The tag of a key whose value is merged into its mapping. -/
def merge : String := standard "merge"

/-- The tag of a key whose value stands for its mapping. -/
def value : String := standard "value"

/-- A kind of plain scalar: its tag, how its texts begin, and its pattern. -/
structure Kind where
  tag : String
  starts : String
  pattern : Option Compiled

/-- A pattern of kinds, which are well-formed. -/
def pattern (text : String) : Option Compiled :=
  match compile text 0 with
  | .ok c => some c
  | .error _ => none

/-- The kinds of plain scalars, in the order in which they are tried. -/
def kinds : List Kind :=
  [ ⟨standard "bool", "yYnNtTfFoO", pattern
      ("^(?:yes|Yes|YES|no|No|NO|true|True|TRUE|false|False|FALSE" ++
        "|on|On|ON|off|Off|OFF)$")⟩,
    ⟨standard "float", "-+0123456789.", pattern
      ("^(?:[-+]?(?:[0-9][0-9_]*)\\.[0-9_]*(?:[eE][-+][0-9]+)?" ++
        "|\\.[0-9][0-9_]*(?:[eE][-+][0-9]+)?" ++
        "|[-+]?[0-9][0-9_]*(?::[0-5]?[0-9])+\\.[0-9_]*" ++
        "|[-+]?\\.(?:inf|Inf|INF)|\\.(?:nan|NaN|NAN))$")⟩,
    ⟨standard "int", "-+0123456789", pattern
      ("^(?:[-+]?0b[0-1_]+|[-+]?0[0-7_]+|[-+]?(?:0|[1-9][0-9_]*)|[-+]?0x[0-9a-fA-F_]+" ++
        "|[-+]?[1-9][0-9_]*(?::[0-5]?[0-9])+)$")⟩,
    ⟨merge, "<", pattern "^(?:<<)$"⟩,
    ⟨standard "null", "~nN", pattern "^(?:~|null|Null|NULL|)$"⟩,
    ⟨standard "timestamp", "0123456789", pattern
      ("^(?:[0-9][0-9][0-9][0-9]-[0-9][0-9]-[0-9][0-9]" ++
        "|[0-9][0-9][0-9][0-9]-[0-9][0-9]?-[0-9][0-9]?" ++
        "(?:[Tt]|[ \\t]+)[0-9][0-9]?:[0-9][0-9]:[0-9][0-9](?:\\.[0-9]*)?" ++
        "(?:[ \\t]*(?:Z|[-+][0-9][0-9]?(?::[0-9][0-9])?))?)$")⟩,
    ⟨value, "=", pattern "^(?:=)$"⟩,
    ⟨standard "yaml", "!&*", pattern "^(?:!|&|\\*)$"⟩]

/-- Whether a text is of a kind. The empty text is nothing. -/
def Kind.admits (k : Kind) (s : String) : Bool :=
  match s.toList with
  | [] => k.tag == standard "null"
  | c :: _ =>
    k.starts.toList.contains c && (match k.pattern with
    | some p => p.accepts s
    | none => false)

/-- The tag of a plain scalar. -/
def ofText (s : String) : String :=
  match kinds.find? fun k => k.admits s with
  | some k => k.tag
  | none => text

end Tag
end TextCriteria.Document
