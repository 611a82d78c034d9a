import TextCriteria.Pattern.CharClass

namespace TextCriteria.Pattern

/-!
# Patterns as trees

* `Regex` — the tree of a pattern.
* `Regex.ofItems`, `Regex.ofBranches` — sequences and alternatives.
* `Width`, `Regex.width` — the least and the most characters that a tree can match, as far as its
  shape tells. Text that is looked at and not consumed counts nothing.
-/

/-- Places in a text. -/
inductive Anchor
  | lineStart
  | lineEnd
  | textStart
  | textEnd
  | boundary
  | inside
  deriving DecidableEq, Repr

/-- How a repetition chooses its number of rounds. -/
inductive Greed
  | greedy
  | reluctant
  | possessive
  deriving DecidableEq, Repr

/-- The least and the most characters that can be matched. -/
structure Width where
  least : Nat
  most : Nat
  deriving DecidableEq, Repr

/-- A pattern. Groups are numbered from one in the order of their opening parentheses. -/
inductive Regex
  /-- The empty sequence. -/
  | empty
  /-- One character, given by its code point. -/
  | char (c : Nat)
  /-- Any character; a line break only if the modes say so. -/
  | any
  /-- A bracketed class. -/
  | oneOf (negated : Bool) (members : List ClassMember)
  /-- A place. -/
  | anchor (a : Anchor)
  /-- One after the other. -/
  | seq (first second : Regex)
  /-- The first that leads to a match. -/
  | alt (first second : Regex)
  /-- A numbered group. -/
  | group (index : Nat) (body : Regex)
  /-- A group that has no number and may change modes. -/
  | scoped (change : ModeChange) (body : Regex)
  /-- A group that is matched once and then never tried again. -/
  | atomic (body : Regex)
  /-- A look at the text that follows. -/
  | lookahead (negative : Bool) (body : Regex)
  /-- A look at the text just before, of as many characters as the width says. -/
  | lookbehind (negative : Bool) (width : Width) (body : Regex)
  /-- The text of a numbered group again. -/
  | backref (index : Nat)
  /-- One of two, depending on whether a numbered group took part. -/
  | conditional (index : Nat) (yes no : Regex)
  /-- Rounds of a pattern, at least `least` and at most `most` if that is given. -/
  | rounds (greed : Greed) (least : Nat) (most : Option Nat) (body : Regex)
  deriving Repr

/-- A sequence. -/
def Regex.ofItems : List Regex → Regex
  | [] => .empty
  | r :: rest => .seq r (ofItems rest)

/-- Alternatives, in order, the first one apart. -/
def Regex.ofBranches : Regex → List Regex → Regex
  | r, [] => r
  | r, s :: rest => .alt r (ofBranches s rest)

/-- Repeat bounds stay below this number. -/
def maxRepeat : Nat := 4294967295

namespace Width

def zero : Width := ⟨0, 0⟩
def one : Width := ⟨1, 1⟩

def add (v w : Width) : Width := ⟨v.least + w.least, v.most + w.most⟩

def either (v w : Width) : Width := ⟨min v.least w.least, max v.most w.most⟩

/-- Widths are told apart up to the bound of repetitions. -/
def isFixed (w : Width) : Bool :=
  min w.least (maxRepeat - 1) == min w.most maxRepeat

end Width

/-- The width of a tree, given those of the groups closed before it. -/
def Regex.width (groups : Nat → Width) : Regex → Width
  | .empty | .anchor _ | .lookahead _ _ | .lookbehind _ _ _ => .zero
  | .char _ | .any | .oneOf _ _ => .one
  | .seq a b => (a.width groups).add (b.width groups)
  | .alt a b => (a.width groups).either (b.width groups)
  | .group _ a | .scoped _ a | .atomic a => a.width groups
  | .backref i => groups i
  | .conditional _ a b => (a.width groups).either (b.width groups)
  | .rounds _ least most a =>
    let w := a.width groups
    ⟨w.least * least, w.most * most.getD maxRepeat⟩

/-- What may not be repeated, and what is a repetition already. -/
inductive Repeatable
  | yes
  | place
  | repetition
  deriving DecidableEq, Repr

/-- Whether a repeat mark may follow an item. -/
def Regex.repeatable : Regex → Repeatable
  | .anchor _ => .place
  | .rounds _ _ _ _ => .repetition
  | _ => .yes

end TextCriteria.Pattern
