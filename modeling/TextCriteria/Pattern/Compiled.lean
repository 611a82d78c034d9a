import TextCriteria.Pattern.Draft
import TextCriteria.Pattern.Matching

namespace TextCriteria.Pattern

/-!
# Compiled patterns

* `Compiled` — a pattern with the flags in force.
* `compile` — from a text and flags.
* `Compiled.match?` — the extent of a match that begins where the text begins.
* `Compiled.accepts` — whether there is one.

A text is refused for what is malformed in it first, then for flags that contradict each other, then
for references to groups that it does not have, then for what its tree may not contain.
-/

/-- The first part of a tree that cannot be compiled: a look behind without a fixed width, or, under
    the template flag, any repetition. -/
def Regex.fault? (template : Bool) : Regex → Option Cause
  | .seq a b | .alt a b | .conditional _ a b =>
    match a.fault? template with
    | some cause => some cause
    | none => b.fault? template
  | .group _ a | .scoped _ a | .atomic a | .lookahead _ a => a.fault? template
  | .lookbehind _ w a => if w.isFixed then a.fault? template else some .lookbehindWidth
  | .rounds greed _ _ a => if template then some (.templateRepeat greed) else a.fault? template
  | _ => none

/-- The bit of a flag letter. -/
def flagBit : Char → Nat
  | 'i' => 1
  | 'L' => 2
  | 'm' => 3
  | 's' => 4
  | 'u' => 5
  | 'x' => 6
  | 'a' => 8
  | _ => 0

/-- Flags with those of some letters. -/
def Flags.withLetters (flags : Flags) (letters : List Char) : Flags :=
  letters.foldl (fun f c => f.setBit (flagBit c)) flags

/-- Flags that can stand together, with Unicode added where ASCII is not asked for. -/
def Flags.check (flags : Flags) : Outcome Flags :=
  if flags.locale then .error .locale
  else if flags.ascii && flags.unicode then .error .asciiAndUnicode
  else .ok flags.normalize

/-- A pattern that is ready to be matched. -/
structure Compiled where
  text : String
  flags : Flags
  tree : Regex
  deriving Repr

/-- Compiles a text. -/
def compileChars (text : List Char) (flags : Flags) : Outcome (Flags × Regex) := do
  match (Draft.start flags.verbose text.length).readAll text with
  | .error (.malformed .unbalanced left) => do
    let _ ← flags.check
    .error (.malformed .unbalanced left)
  | .error refusal => .error refusal
  | .ok draft => do
    let tree ← draft.finish
    let flags ← (flags.withLetters draft.globals).check
    match draft.missingGroup? with
    | some (index, left) => fault (.invalidGroup index) left
    | none =>
      match tree.fault? flags.template with
      | some cause => .error (.malformed cause none)
      | none =>
        if flags < -2147483648 || 2147483647 < flags then .error .flagsTooLarge
        else .ok (flags, tree)

/-- Compiles a text under some flags. There is no limit on how deep groups may be nested. -/
def compile (text : String) (flags : Flags) : Outcome Compiled := do
  let (flags, tree) ← compileChars text.toList flags
  .ok { text, flags, tree }

/-- Where the match that begins at the start of a text ends. -/
def Compiled.match? (c : Compiled) (value : String) : Option Nat :=
  c.tree.matchAt value.toList.toArray c.flags.modes 0

/-- Whether a text has a match that begins at its start. -/
def Compiled.accepts (c : Compiled) (value : String) : Bool :=
  (c.match? value).isSome

end TextCriteria.Pattern
