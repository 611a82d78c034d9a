import TextCriteria.Failure.Basic

namespace TextCriteria

/-!
# Arguments of operations

Operations are called with values by name or in order. A value that is not given is the default of its
parameter.

* `Operation` — a name and the parameters in order.
* `Operation.byName` — the values of the parameters where arguments have names.
* `Operation.inOrder` — the values of the parameters where arguments come in order.
-/

/-- A parameter with its default, if it has one. -/
structure Parameter where
  name : String
  fallback : Option Value
  deriving Repr

/-- An operation that can be called. -/
structure Operation where
  name : String
  parameters : List Parameter
  deriving Repr

namespace Parameter

/-- A parameter that has to be given. -/
def needed (name : String) : Parameter := ⟨name, none⟩

/-- A parameter with a default. -/
def withDefault (name : String) (fallback : Value) : Parameter := ⟨name, some fallback⟩

/-- A parameter that may be left out and is nothing then. -/
def optional (name : String) : Parameter := withDefault name .null

/-- The value of a parameter among some arguments. -/
def value? (arguments : List (String × Value)) (p : Parameter) : Option Value :=
  arguments.lookup p.name <|> p.fallback

end Parameter

namespace Operation

/-- The values of the parameters, or the parameters that have none. -/
def values (op : Operation) (arguments : List (String × Value)) : Except Failure (List Value) :=
  let missing := op.parameters.filter fun p => (p.value? arguments).isNone
  if missing.isEmpty then .ok (op.parameters.filterMap (Parameter.value? arguments))
  else .error (.missingArguments op.name (missing.map (·.name)))

/-- The values of the parameters where arguments have names. An argument without a parameter is
    refused before a parameter without an argument. -/
def byName (op : Operation) (arguments : List (String × Value)) : Except Failure (List Value) :=
  match arguments.find? fun a => !op.parameters.any fun p => p.name == a.1 with
  | some a => .error (.unexpectedArgument op.name a.1)
  | none => op.values arguments

/-- The values of the parameters where arguments come in order. -/
def inOrder (op : Operation) (arguments : List Value) : Except Failure (List Value) :=
  let most := op.parameters.length
  if most < arguments.length then
    let least := (op.parameters.filter fun p => p.fallback.isNone).length
    .error (.tooManyArguments op.name least most arguments.length)
  else op.values ((op.parameters.map (·.name)).zip arguments)

end Operation
end TextCriteria
