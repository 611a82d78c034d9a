import TextCriteria.Catalog.Shape
import TextCriteria.Requirement.Basic
import TextCriteria.Failure.Basic
import TextCriteria.Text.LetterCase

namespace TextCriteria

open TextCriteria.Text

/-!
# Standard requirements

Requirements on length, on the number of characters of a class and on the shape of a text. Each has a
standard message, which the caller's message replaces.

* `count?` — a caller's count: a whole number that is not negative; `writable?`, one that can be written.
* `minLength` … `exactLength`, `required` — length.
* `atLeast`, `CharacterKind` — counts of characters.
* `email`, `url`, `ipv4`, `date`, `phone` — shapes.
* `PhoneRegion.ofValue?`, `DateTemplate.ofValue?` — how a caller's region or template is looked up; a value
  without a text cannot be. `PhoneRegion.resolve`, `DateTemplate.resolve` — the same with a default.
-/

/-- A number that has a numeral. -/
def writable? (n : Nat) : Except Failure Nat :=
  if (decimal n).length ≤ maxDigits then .ok n else .error .unwritable

/-- A whole number that is not negative; truth values are no numbers. -/
def count? (name : String) : Value → Except Failure Nat
  | .int n =>
    if n < 0 then do
      -- The message has the number in it.
      let _ ← writable? n.natAbs
      .error (.countNegative name n)
    else .ok n.toNat
  | v => do .error (.countKind name (← v.shown))

namespace Requirement

/-! ### Length -/

/-- At least so many characters. -/
def minLength (n : Nat) (message : Value) : Requirement :=
  .of (.lookahead (".\x7b" ++ decimal n ++ ",\x7d")) message
    ("Minimum length of " ++ decimal n ++ " characters")

/-- At most so many characters. -/
def maxLength (n : Nat) (message : Value) : Requirement :=
  .of (.lookahead (".\x7b0," ++ decimal n ++ "\x7d\\Z")) message
    ("Maximum length of " ++ decimal n ++ " characters")

/-- A number of characters between two bounds. Bounds in the wrong order make no pattern, which is
    noticed when the requirements are composed. -/
def lengthBetween (least most : Nat) (message : Value) : Requirement :=
  .of (.lookahead (".\x7b" ++ decimal least ++ "," ++ decimal most ++ "\x7d\\Z")) message
    ("Length should be between " ++ decimal least ++ " and " ++ decimal most ++ " characters")

/-- Exactly so many characters. -/
def exactLength (n : Nat) (message : Value) : Requirement :=
  .of (.lookahead (".\x7b" ++ decimal n ++ "\x7d\\Z")) message
    ("Length should be exactly " ++ decimal n ++ " characters")

/-- Not empty. -/
def required (message : Value) : Requirement :=
  .of (.lookahead ".") message "Value is required"

/-! ### Counts of characters -/

/-- At least so many characters of a class, anywhere. Each round goes to the next one and no
    further. -/
def atLeast (members : String) (n : Nat) : Fragment :=
  .lookahead
    ("(?:[^" ++ members ++ "]*[" ++ members ++ "])\x7b" ++ decimal n ++ "\x7d")

end Requirement

/-- The classes of characters that are counted. -/
inductive CharacterKind
  | letter
  | lowercase
  | uppercase
  | digit
  | special
  deriving DecidableEq, Repr

namespace CharacterKind

/-- The members of a class, as in brackets. -/
def members : CharacterKind → String
  | .letter => "a-zA-Z"
  | .lowercase => "a-z"
  | .uppercase => "A-Z"
  | .digit => "0-9"
  | .special => "!@#$%^&*?~"

/-- The name of a character of a class. -/
def noun : CharacterKind → String
  | .letter => "letter"
  | .lowercase => "lowercase letter"
  | .uppercase => "uppercase letter"
  | .digit => "number"
  | .special => "special character"

end CharacterKind

/-- A noun in the plural for more than one. -/
def plural (n : Nat) (noun : String) : String :=
  if 1 < n then noun ++ "s" else noun

namespace Requirement

/-- At least so many characters of a kind. -/
def characters (kind : CharacterKind) (n : Nat) (message : Value) : Requirement :=
  .of (atLeast kind.members n) message ("At least " ++ decimal n ++ " " ++ plural n kind.noun)

/-! ### Shapes -/

/-- A mail address. -/
def email (message : Value) : Requirement :=
  .of (.anchored Shape.email) message "Must be a valid email address"

/-- A web address. -/
def url (schemeRequired : Bool) (message : Value) : Requirement :=
  .of (.anchored (Shape.url schemeRequired)) message "Valid URL"

/-- A network address. -/
def ipv4 (message : Value) : Requirement :=
  .of (.anchored Shape.ipv4) message "Valid IPv4 address"

end Requirement

/-- What is found for the text of a value that counts as given. -/
def Value.named? {α : Type} (v : Value) (find : String → Option α) : Except Failure (Option α) :=
  if v.isTrue then do .ok (find (← v.text)) else .ok none

/-- The region that a value stands for: a member of the catalog, or its name in any case and with
    blanks around it. -/
def PhoneRegion.ofValue? : Value → Except Failure (Option PhoneRegion)
  | .choice (.region r) => .ok (some r)
  | v => v.named? fun s => PhoneRegion.withKey? (upperCase (trimString s))

/-- The template that a value stands for: a member of the catalog, or its name with blanks around
    it. -/
def DateTemplate.ofValue? : Value → Except Failure (Option DateTemplate)
  | .choice (.template t) => .ok (some t)
  | v => v.named? fun s => DateTemplate.withCode? (trimString s)

/-- A value that stands for no region means numbers of any region. -/
def PhoneRegion.resolve (v : Value) : Except Failure PhoneRegion := do
  .ok ((← PhoneRegion.ofValue? v).getD .international)

/-- A value that stands for no template means year, month and day. -/
def DateTemplate.resolve (v : Value) : Except Failure DateTemplate := do
  .ok ((← DateTemplate.ofValue? v).getD .yearMonthDay)

/-- How a message names a region, which a value was found to stand for: as the caller did. -/
def PhoneRegion.nameFor (r : PhoneRegion) : Value → Except Failure String
  | .choice (.region r) => .ok r.code
  | v => if v.isTrue then v.text else .ok r.code

namespace Requirement

/-- A date in a template. -/
def date (template message : Value) : Except Failure Requirement := do
  let t ← DateTemplate.resolve template
  .ok (.of (.anchored t.shape) message ("Valid date in " ++ t.code ++ " format"))

/-- A phone number of a region. -/
def phone (region message : Value) : Except Failure Requirement := do
  let r ← PhoneRegion.resolve region
  let name ← r.nameFor region
  .ok (.of (.anchored r.shape) message ("Valid " ++ name ++ " phone number"))

end Requirement
end TextCriteria
