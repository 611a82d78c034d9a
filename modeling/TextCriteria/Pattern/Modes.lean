namespace TextCriteria.Pattern

/-!
# Flags and modes

A pattern is compiled under a set of flags, an integer whose bits are switches. Inside a pattern a
group may change some of them for its own extent.

* `Flags` — the integer, with one reader per switch.
* `Modes` — the switches that matching looks at.
* `ModeChange` — what a group such as `(?i-s:…)` changes, and `Modes.apply`, its effect.
-/

/-- A set of flags as an integer. -/
abbrev Flags := Int

namespace Flags

/-- The weight of a bit. -/
def weight (k : Nat) : Nat := Nat.pow 2 k

/-- Whether a bit is set, negative integers taken in two's complement. -/
def hasBit (flags : Flags) (k : Nat) : Bool :=
  flags / (weight k : Int) % 2 == 1

/-- A set of flags with one more switch. -/
def setBit (flags : Flags) (k : Nat) : Flags :=
  if hasBit flags k then flags else flags + (weight k : Int)

def template (flags : Flags) : Bool := hasBit flags 0
def ignoreCase (flags : Flags) : Bool := hasBit flags 1
def locale (flags : Flags) : Bool := hasBit flags 2
def multiline (flags : Flags) : Bool := hasBit flags 3
def dotAll (flags : Flags) : Bool := hasBit flags 4
def unicode (flags : Flags) : Bool := hasBit flags 5
def verbose (flags : Flags) : Bool := hasBit flags 6
def ascii (flags : Flags) : Bool := hasBit flags 8

/-- Text is read as Unicode unless ASCII is asked for. -/
def normalize (flags : Flags) : Flags :=
  if ascii flags then flags else setBit flags 5

end Flags

/-- The switches that decide what a pattern matches. -/
structure Modes where
  ignoreCase : Bool
  multiline : Bool
  dotAll : Bool
  ascii : Bool
  deriving DecidableEq, Repr

/-- The modes that a set of flags stands for. -/
def Flags.modes (flags : Flags) : Modes where
  ignoreCase := flags.ignoreCase
  multiline := flags.multiline
  dotAll := flags.dotAll
  ascii := flags.ascii

/-- The changes of one group: a switch is turned on, turned off or left. -/
structure ModeChange where
  ignoreCase : Option Bool := none
  multiline : Option Bool := none
  dotAll : Option Bool := none
  verbose : Option Bool := none
  ascii : Option Bool := none
  deriving DecidableEq, Repr

/-- The modes inside a group. -/
def Modes.apply (m : Modes) (change : ModeChange) : Modes where
  ignoreCase := change.ignoreCase.getD m.ignoreCase
  multiline := change.multiline.getD m.multiline
  dotAll := change.dotAll.getD m.dotAll
  ascii := change.ascii.getD m.ascii

/-- A group without switches changes nothing. -/
@[simp] theorem Modes.apply_none (m : Modes) : m.apply {} = m := rfl

end TextCriteria.Pattern
