import TextCriteria.Text.Blank
import TextCriteria.Text.Digit

namespace TextCriteria.Text

/-!
# Whole numbers in text

A numeral may have blanks around it, a sign, leading zeros, digits of any script, and single
underscores between digits.

* `digitsValue?` — the value of the digits.
* `integer?` — the value of a numeral.
* `decimal` — the plain numeral of a number, the one without any of these freedoms.
-/

/-- A numeral of more digits than this is neither read nor written. -/
def maxDigits : Nat := 4300

/-- Value of a run of digits with single underscores between them. `acc` is the value so far, and
    `afterDigit` tells whether the run may end or go on with an underscore here. -/
def digitsValue? (acc : Nat) (afterDigit : Bool) : List Char → Option Nat
  | [] => if afterDigit then some acc else none
  | c :: rest =>
    if c == '_' then if afterDigit then digitsValue? acc false rest else none
    else match digitValue? c with
      | some d => digitsValue? (acc * 10 + d) true rest
      | none => none

/-- The blanks that may surround a numeral: all but the separators among the control characters. -/
def numeralBlank (c : Char) : Bool :=
  c == ' ' || (9 ≤ c.toNat && c.toNat ≤ 13) || (128 ≤ c.toNat && isBlank c)

/-- A sign and what follows it. -/
def splitSign : List Char → Bool × List Char
  | '-' :: rest => (true, rest)
  | '+' :: rest => (false, rest)
  | rest => (false, rest)

/-- The number that a numeral stands for. -/
def integer? (s : List Char) : Option Int :=
  let bare := ((s.dropWhile numeralBlank).reverse.dropWhile numeralBlank).reverse
  let (negative, digits) := splitSign bare
  if maxDigits < (digits.filter fun c => c != '_').length then none
  else (digitsValue? 0 false digits).map fun n : Nat => if negative then -(n : Int) else n

/-- The plain numeral of a number. -/
def decimal (n : Int) : String :=
  if n < 0 then "-" ++ toString n.natAbs else toString n.natAbs

end TextCriteria.Text
