import TextCriteria.Builder.Validator
import TextCriteria.Settings.Basic

namespace TextCriteria

/-!
# Models

A model is a list of named fields, each with a validator and maybe a default.

* `Model.read` — the values of the fields in some data, or what is wrong with the data.
-/

/-- A field of a model. -/
structure ModelField where
  name : String
  validator : Validator
  fallback : Option Value
  deriving Repr

/-- A model. -/
structure Model where
  name : String
  fields : List ModelField
  deriving Repr

/-- The value under a key. -/
def Value.entry? (key : String) (entries : List (Value × Value)) : Option Value :=
  entries.findSome? fun
    | (.str k, v) => if k == key then some v else none
    | _ => none

/-- The value of a field. Defaults are not checked. -/
def ModelField.read (f : ModelField) (entries : List (Value × Value)) :
    Except Failure (Checked Value) :=
  match Value.entry? f.name entries with
  | some v => do
    match ← f.validator.read v with
    | .ok s => .ok (.ok (.str s))
    | .error e => .ok (.under f.name (.error e))
  | none =>
    match f.fallback with
    | some v => .ok (.ok v)
    | none => .ok (.error [⟨.missing, [.field f.name]⟩])

namespace Model

/-- The values of some fields, or all complaints about them. -/
def readFields (entries : List (Value × Value)) :
    List ModelField → Except Failure (Checked (List (String × Value)))
  | [] => .ok (.ok [])
  | f :: rest => do
    let value ← f.read entries
    let others ← readFields entries rest
    .ok (.both (.both (.of fun v l => (f.name, v) :: l) value) others)

/-- The values of all fields in some data. Entries of no field are passed over. -/
def read (m : Model) (data : Value) : Except Failure (List (String × Value)) :=
  match data with
  | .dict entries => do
    match ← readFields entries m.fields with
    | .ok values => .ok values
    | .error e => .error (.invalid e)
  | _ => .error (.invalid [⟨.modelType m.name, []⟩])

end Model
end TextCriteria
