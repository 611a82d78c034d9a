import TextCriteria.Arguments

namespace TextCriteria

/-!
# Records for a caller's data

* `RecordKind.withLabel?` — the kind of record with a name.
* `Record.given` — the record of a kind for arguments by name.
-/

namespace RecordKind

/-- All kinds in order. -/
def all : List RecordKind :=
  [.general, .presetNotFound, .unknownRule, .ruleParameter, .pattern]

/-- The kind of record with a name. -/
def withLabel? (label : String) : Option RecordKind :=
  all.find? fun k => Record.label k == label

/-- The parameters of a kind. -/
def parameters : RecordKind → List Parameter
  | .general =>
    [.needed "message", .withDefault "code" (.str FailureCode.general.code), .optional "details"]
  | .presetNotFound => [.needed "preset_type", .needed "level", .optional "available_levels"]
  | .unknownRule => [.needed "rule_name", .optional "rules"]
  | .ruleParameter => [.needed "rule_name", .needed "param"]
  | .pattern => [.needed "pattern", .needed "reason", .optional "requirement"]

/-- The operation that makes a record of a kind. -/
def operation (k : RecordKind) : Operation :=
  ⟨Record.label k ++ ".__init__", k.parameters⟩

end RecordKind

/-- The items of a value that can be gone through. -/
def Value.items : Value → Except Failure (List Value)
  | .list items | .tuple items | .set items => .ok items
  | .dict entries => .ok (entries.map (·.1))
  | .str s => .ok (s.toList.map fun c => .str (String.ofList [c]))
  | .choice c => .ok (c.code.toList.map fun c => .str (String.ofList [c]))
  | .bytes b => .ok (b.map fun byte => .int byte.toNat)
  | v => .error (.notIterable v.fullKind)

/-- Refuses the first item that is no text. -/
def Value.checkTexts (items : List Value) : Except Failure Unit :=
  match items.zipIdx.find? fun m => m.1.asText?.isNone with
  | some (v, i) => .error (.notJoinable i v.fullKind)
  | none => .ok ()

namespace Record

/-- The code that a value stands for. -/
def codeOf : Value → RecordCode
  | .str s =>
    match FailureCode.withCode? s with
    | some c => .known c
    | none => .custom (.str s)
  | v => .custom v

/-- The record of a kind for arguments by name. Only records of the general kind take arguments of
    any other name, as further data. What the message shows has to have a text. -/
def given (kind : RecordKind) (arguments : List (String × Value)) : Except Failure Record := do
  let known := kind.parameters.map (·.name)
  match kind with
  | .general =>
    match ← kind.operation.values arguments with
    | [message, code, details] =>
      .ok (general message (codeOf code) details (arguments.filter fun a => !known.contains a.1))
    | _ => .ok (general .null (.known .general) .null [])
  | kind =>
    match kind, ← kind.operation.byName arguments with
    | .presetNotFound, [type, level, available] => do
      let available ← (available.orElse (.list [])).items
      Value.checkTexts available
      let _ ← type.text
      let _ ← level.text
      .ok (presetNotFound type level available)
    | .unknownRule, [name, rules] => do
      let _ ← name.text
      .ok (unknownRule name rules)
    | .ruleParameter, [name, param] => do
      let _ ← name.text
      let _ ← param.shown
      .ok (ruleParameter name param)
    | .pattern, [text, reason, requirement] => do
      let _ ← text.shown
      let _ ← reason.text
      .ok (pattern text reason requirement)
    | _, _ => .ok (general .null (.known .general) .null [])

end Record
end TextCriteria
