import TextCriteria.Document.Reading
import TextCriteria.Files
import TextCriteria.Failure.Given
import TextCriteria.Settings.Source

namespace TextCriteria.Document

open TextCriteria.Text

/-!
# Configuration files

Files of configuration are read once and kept under the text of their path until the store is cleared.

* `Cache.load` — the content of a file, kept or read.
* `entriesOf` — the settings that a content states.
* `loadSettings` — settings where the caller wins over the file and the file over the environment.
-/

/-- The contents that were read, by path. -/
structure Cache where
  contents : List (String × Value) := []
  deriving Repr

/-- The path of a file that is given relative to a directory, or else to the working directory. -/
def pathFor (path : String) (base : Option String) : String :=
  match base with
  | some base => if base.isEmpty then Path.join Path.workingDirectory path else Path.join base path
  | none => Path.join Path.workingDirectory path

/-- The text of a file. -/
def textOf (bytes : Bytes) : Except Failure (List Char) :=
  let encoding := Encoding.utf8 false
  match encoding.decode bytes with
  | .ok s => .ok (unifyBreaks s)
  | .error fault => .error (.decoding (encoding.faultMessage bytes fault))

/-- The content of a file. A content that does not count as given is an empty mapping. -/
def contentOf (files : Files) (path : String) : Except Failure Value :=
  match files.at? path with
  | none => .error (.noConfig path)
  | some _ => do
    let bytes ← files.read path
    let text ← textOf bytes
    let v ← read text
    .ok (v.orElse (.dict []))

namespace Cache

/-- The content of a file: as it was read first, or else as it is now, which is kept. -/
def load (c : Cache) (files : Files) (path : String) (base : Option String) :
    Except Failure Value × Cache :=
  let path := pathFor path base
  match c.contents.lookup path with
  | some v => (.ok v, c)
  | none =>
    match contentOf files path with
    | .ok v => (.ok v, ⟨(path, v) :: c.contents⟩)
    | .error f => (.error f, c)

/-- Nothing is kept. -/
def clear (_ : Cache) : Cache := {}

end Cache

/-! ### Settings from files -/

/-- An entry that a pair states: any two items that can be gone through, of which the first one can be a key. -/
def pairOf (index : Nat) (v : Value) : Except Failure (Value × Value) :=
  match v.items with
  | .ok [k, w] =>
    match k.unhashable? with
    | some kind => .error (.unhashable kind)
    | none => .ok (k, w)
  | .ok items => .error (.notPairs index items.length)
  | .error _ => .error (.notSequence index)

/-- The entries that a content states: a mapping as it is, and else pairs. -/
def entriesOf : Value → Except Failure (List (Value × Value))
  | .dict entries => .ok entries
  | v => do
    let items ← v.items
    let pairs ← items.zipIdx.mapM fun (item, i) => pairOf i item
    .ok (uniteEntries pairs)

/-- Entries as arguments: their keys have to be texts. -/
def argumentsOf (entries : List (Value × Value)) : Except Failure (List (String × Value)) :=
  match textKeys? entries with
  | some arguments => .ok arguments
  | none => .error .keywords

/-- Entries with those of a caller over them. -/
def withOverrides (entries : List (Value × Value)) (overrides : List (String × Value)) :
    List (Value × Value) :=
  overrides.foldl (fun acc o => Json.put o.1 o.2 acc) entries

/-- The arguments for settings: the content of a file under those of a caller. -/
def settingArguments (content : Value) (overrides : List (String × Value)) :
    Except Failure (List (String × Value)) := do
  let entries ← entriesOf content
  argumentsOf (withOverrides entries overrides)

end TextCriteria.Document
