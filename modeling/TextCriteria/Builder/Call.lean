import TextCriteria.Arguments
import TextCriteria.Preset

namespace TextCriteria

/-!
# Calls on a builder

* `Call` — the ways to add requirements to a builder, with the caller's values.
* `FragmentArgument` — a fragment, or whatever else was given in its place.
* `Call.form?` — the form of the calls with a name: their parameters and what to make of the values.
-/

/-- A fragment, or the kind of what was given instead. -/
inductive FragmentArgument
  | fragment (f : Fragment)
  | other (kind : String)
  deriving Repr

/-- The three limits on length that have one bound. -/
inductive LengthKind
  | least
  | most
  | exact
  deriving DecidableEq, Repr

/-- A call that adds requirements. -/
inductive Call
  | addRequirement (fragment : FragmentArgument) (message : Value)
  | length (kind : LengthKind) (n : Value) (message : Value)
  | lengthBetween (least most : Value) (message : Value)
  | required (message : Value)
  | characters (kind : CharacterKind) (n : Value) (message : Value)
  | email (message : Value)
  | url (schemeRequired : Value) (message : Value)
  | ipv4 (message : Value)
  | date (template : Value) (message : Value)
  | phone (region : Value) (message : Value)
  | shape (pattern : String) (message : Value)
  | preset (type level : Value)
  | field (name : Value) (rules : Value)
  deriving Repr

/-- The kind of fragments that is written in a given way. -/
def FragmentKind.withCode? (code : String) : Option FragmentKind :=
  [FragmentKind.lookahead, .anchored].find? fun k => k.code == code

/-- The text under a key of a mapping. -/
def Value.textAt? (key : String) : Value → Option String
  | .dict entries => entries.findSome? fun
    | (.str k, .str s) => if k == key then some s else none
    | _ => none
  | _ => none

/-- The fragment that a mapping with a kind and a body states. -/
def Fragment.ofValue? (v : Value) : Option Fragment := do
  let kind ← FragmentKind.withCode? (← v.textAt? "kind")
  some ⟨kind, ← v.textAt? "body"⟩

/-- What was given for a fragment. -/
def FragmentArgument.ofValue (v : Value) : FragmentArgument :=
  match Fragment.ofValue? v with
  | some f => .fragment f
  | none => .other v.kind

namespace Call

/-- A name of a call, its parameters, what their values have to meet, and the call with them. -/
structure Form where
  operation : Operation
  check : List Value → Except Failure Unit := fun _ => .ok ()
  make : List Value → Option Call

/-- A parameter for a message that may be left out. -/
def message : Parameter := .optional "message"

/-- A form with a message alone. -/
def plainForm (name : String) (make : Value → Call) : Form where
  operation := ⟨name, [message]⟩
  make
  | [m] => some (make m)
  | _ => none

/-- A form with one parameter and a message. -/
def formWith (name : String) (p : Parameter) (make : Value → Value → Call) : Form where
  operation := ⟨name, [p, message]⟩
  make
  | [v, m] => some (make v m)
  | _ => none

/-- A form with two parameters. -/
def formOf (name : String) (p q : Parameter) (make : Value → Value → Call) : Form where
  operation := ⟨name, [p, q]⟩
  make
  | [v, w] => some (make v w)
  | _ => none

/-- A form with a count and a message. -/
def countForm (name : String) (kind : CharacterKind) : Form :=
  formWith name (.withDefault "count" (.int 1)) (.characters kind)

/-- All forms. -/
def forms : List Form :=
  [ formOf "add_requirement" (.needed "fragment") (.needed "message") fun f m =>
      .addRequirement (.ofValue f) m,
    formWith "has_min_length" (.needed "length") (.length .least),
    formWith "has_max_length" (.needed "length") (.length .most),
    formWith "has_exact_length" (.needed "length") (.length .exact),
    { operation :=
        ⟨"has_length_between", [.needed "min_length", .needed "max_length", message]⟩
      make
      | [least, most, m] => some (.lengthBetween least most m)
      | _ => none },
    plainForm "is_required" .required,
    countForm "has_letter" .letter,
    countForm "has_lower_case" .lowercase,
    countForm "has_upper_case" .uppercase,
    countForm "has_number" .digit,
    countForm "has_special_character" .special,
    plainForm "is_email" .email,
    formWith "is_url" (.optional "protocol") .url,
    plainForm "is_ipv4" .ipv4,
    formWith "is_date" (.optional "date_format") .date,
    formWith "is_phone" (.optional "region") .phone,
    -- A pattern that is no text is taken by its text, so there has to be one.
    { formOf "matches" (.needed "pattern") (.needed "message") fun p m => .shape (p.text?.getD "") m with
      check vs := discard (vs.headD .null).text },
    formOf "use_preset" (.needed "preset_type") (.optional "level") .preset,
    formOf "field" (.needed "name") (.needed "rules") .field]

/-- The form with a name. -/
def form? (name : String) : Option Form :=
  forms.find? fun f => f.operation.name == name

/-- The operation of a form as failures name it. -/
def Form.qualified (f : Form) : Operation :=
  { f.operation with name := "RegexCraft." ++ f.operation.name }

/-- The call of a form with arguments by name. -/
def Form.call (f : Form) (arguments : List (String × Value)) : Except Failure (Option Call) := do
  let vs ← f.qualified.byName arguments
  f.check vs
  .ok (f.make vs)

end Call
end TextCriteria
