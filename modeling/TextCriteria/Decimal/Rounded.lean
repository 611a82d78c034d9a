import TextCriteria.Decimal.Shortest

namespace TextCriteria.Decimal

/-!
# Rounded decimals

Numbers written with a given count of digits. A half goes to the even neighbour.

* `Fraction.ofFloat` — the exact size of a floating-point number.
* `fixedDigits` — so many digits after the point.
* `scientificDigits` — one digit before the point, so many after it, and an exponent.
* `generalDigits` — so many digits in all, in the shorter of the two forms.
-/

/-- A fraction that is not negative. -/
structure Fraction where
  num : Nat
  den : Nat
  deriving DecidableEq, Repr

/-- The size of a finite floating-point number. -/
def Fraction.ofFloat (x : Float) : Fraction :=
  let bits := x.toBits.toNat
  let exponent := bits / Nat.pow 2 52 % Nat.pow 2 11
  let fraction := bits % Nat.pow 2 52
  if exponent == 0 then ⟨fraction, Nat.pow 2 1074⟩
  else if exponent < 1075 then ⟨fraction + Nat.pow 2 52, Nat.pow 2 (1075 - exponent)⟩
  else ⟨(fraction + Nat.pow 2 52) * Nat.pow 2 (exponent - 1075), 1⟩

/-- A fraction times a power of ten, rounded to a whole number. -/
def Fraction.roundAt (f : Fraction) (power : Int) : Nat :=
  let num := if power < 0 then f.num else f.num * Nat.pow 10 power.natAbs
  let den := if power < 0 then f.den * Nat.pow 10 power.natAbs else f.den
  let q := num / den
  let r := num % den
  if den < 2 * r || (2 * r == den && q % 2 == 1) then q + 1 else q

/-- Digits with leading zeros up to a count. -/
def paddedDigits (count n : Nat) : List Char :=
  let s := (toString n).toList
  List.replicate (count - s.length) '0' ++ s

/-- Digits with a point before the last `places` of them. A point with nothing after it stands only
    where it is `forced`. -/
def pointed (forced : Bool) (places : Nat) (digits : List Char) : String :=
  let whole := digits.take (digits.length - places)
  let part := digits.drop (digits.length - places)
  String.ofList (if part.isEmpty && !forced then whole else whole ++ '.' :: part)

/-- So many digits after the point. -/
def fixedDigits (forced : Bool) (places : Nat) (f : Fraction) : String :=
  pointed forced places (paddedDigits (places + 1) (f.roundAt places))

/-- The exponent of a fraction in powers of ten, found from a guess that is at most one too small. -/
def Fraction.magnitude (f : Fraction) : Int :=
  if f.num == 0 then 0
  else
    let guess : Int := (toString f.num).length - (toString f.den).length - 1
    let next := guess + 1
    if f.den * Nat.pow 10 next.toNat ≤ f.num * Nat.pow 10 (-next).toNat then next else guess

/-- The digits of a number with one before the point and so many after it, and its exponent. -/
def Fraction.digitsAt (f : Fraction) (places : Nat) : Nat × Int :=
  let e := f.magnitude
  let n := f.roundAt (places - e)
  if n == Nat.pow 10 (places + 1) then (n / 10, e + 1) else (n, e)

/-- An exponent with a sign and at least two digits. -/
def exponentText (e : Int) : String :=
  "e" ++ (if e < 0 then "-" else "+") ++ String.ofList (paddedDigits 2 e.natAbs)

/-- One digit before the point and so many after it. -/
def scientificDigits (forced : Bool) (places : Nat) (f : Fraction) : String :=
  let (n, e) := f.digitsAt places
  pointed forced places (paddedDigits (places + 1) n) ++ exponentText e

/-- Digits after a point without the zeros at their end. -/
def dropEndZeros (digits : List Char) (places : Nat) : List Char × Nat :=
  let zeros := min places (digits.reverse.takeWhile fun c => c == '0').length
  (digits.take (digits.length - zeros), places - zeros)

/-- So many digits in all: after a point without zeros at the end, unless they are `forced`. -/
def generalDigits (forced : Bool) (count : Nat) (f : Fraction) : String :=
  let count := if count == 0 then 1 else count
  let (n, e) := f.digitsAt (count - 1)
  let positional := -4 ≤ e && e < count
  let places := if positional then (count - 1 - e).toNat else count - 1
  let digits :=
    if positional then paddedDigits (places + 1) (f.roundAt places) else paddedDigits count n
  let (digits, places) := if forced then (digits, places) else dropEndZeros digits places
  pointed forced places digits ++ (if positional then "" else exponentText e)

end TextCriteria.Decimal
