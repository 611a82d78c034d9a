import TextCriteria.Text.Blank
import TextCriteria.Text.Digit
import TextCriteria.Text.LetterCase
import TextCriteria.Text.Word
import TextCriteria.Pattern.Modes

namespace TextCriteria.Pattern

open TextCriteria.Text

/-!
# What one character matches

* `Category` — the named classes: digits, blanks and word characters.
* `ClassMember` — a member of a bracketed class, and `ClassMember.admits`, its meaning.
* `admitsCode` — the meaning of a single character in a pattern.

Where case is ignored, two characters agree if their lower case forms are equal or have the same
upper case form. The classes are tested on the lower case form then.
-/

/-- The named classes. -/
inductive Category
  | digit
  | blank
  | word
  deriving DecidableEq, Repr

/-- Membership in a named class, restricted to ASCII or not. -/
def Category.holds : Category → Bool → Nat → Bool
  | .digit, true, x => 48 ≤ x && x ≤ 57
  | .digit, false, x => isDecimalDigit x
  | .blank, true, x => x == 32 || (9 ≤ x && x ≤ 13)
  | .blank, false, x => CodeRange.member blankRanges x
  | .word, true, x => isAsciiAlphanumeric x || x == 95
  | .word, false, x => isAlphanumeric x || x == 95

/-- A member of a bracketed class. Code points are numbers: a pattern can name any of them. -/
inductive ClassMember
  | code (c : Nat)
  | range (lo hi : Nat)
  | category (k : Category) (negated : Bool)
  deriving DecidableEq, Repr

/-- The form in which characters are compared. -/
def fold (m : Modes) (x : Nat) : Nat :=
  if m.ignoreCase then if m.ascii then lowerAscii x else lower x else x

/-- Whether two code points are the same character as far as the modes tell. -/
def agree (m : Modes) (c x : Nat) : Bool :=
  fold m x == fold m c ||
    (m.ignoreCase && !m.ascii && (lowerSiblings (fold m c)).contains (fold m x))

/-- All code points that agree with a given one. -/
def agreeing (m : Modes) (x : Nat) : List Nat :=
  if m.ignoreCase then
    if m.ascii then
      let low := lowerAscii x
      if 97 ≤ low && low ≤ 122 then [low, low - 32] else [low]
    else (lower x :: lowerSiblings (lower x)).flatMap lowerSources
  else [x]

/-- Whether a member of a class admits a code point. -/
def ClassMember.admits (m : Modes) : ClassMember → Nat → Bool
  | .code c, x => agree m c x
  | .range lo hi, x => (agreeing m x).any fun c => lo ≤ c && c ≤ hi
  | .category k negated, x => k.holds m.ascii (fold m x) != negated

/-- Whether a bracketed class admits a code point. -/
def admitsClass (m : Modes) (negated : Bool) (members : List ClassMember) (x : Nat) : Bool :=
  members.any (fun c => c.admits m x) != negated

end TextCriteria.Pattern
