namespace TextCriteria.Decimal

/-!
# Shortest decimals

A binary floating-point number is shown with the fewest digits that read back as the same number.

* `Binary` — a positive number as mantissa and exponent, with the reals that round to it.
* `Binary.digits` — the fewest digits, and where the point stands.
* `FloatStyle` — how digits become text, and `floatText`, the text of a number.
* `ofScientific` — the number nearest to a decimal.
-/

/-- A positive binary number `mantissa · 2 ^ (exponent - 1075)`. `narrow` tells that the gap below is
    half the gap above. -/
structure Binary where
  mantissa : Nat
  exponent : Nat
  narrow : Bool

namespace Binary

/-- The denominator over which numbers and the bounds of their neighbourhoods are whole. -/
def denominator : Nat := Nat.pow 2 1077

/-- The number as a numerator. -/
def value (b : Binary) : Nat := 4 * b.mantissa * Nat.pow 2 b.exponent

/-- The least real that rounds to the number, or that would if halves went its way. -/
def low (b : Binary) : Nat :=
  (if b.narrow then 4 * b.mantissa - 1 else 4 * b.mantissa - 2) * Nat.pow 2 b.exponent

/-- The greatest real that rounds to the number, or that would if halves went its way. -/
def high (b : Binary) : Nat := (4 * b.mantissa + 2) * Nat.pow 2 b.exponent

/-- Whether the fraction `point / (denominator * up)` rounds to the number. Halves go to the even
    mantissa. -/
def covers (b : Binary) (up point : Nat) : Bool :=
  if b.mantissa % 2 == 0 then b.low * up ≤ point && point ≤ b.high * up
  else b.low * up < point && point < b.high * up

/-- The multiple of `10 ^ place` that is nearest to the number, if one of its two neighbours on that
    grid is among the reals that round to it. -/
def onGrid? (b : Binary) (place : Int) : Option Nat :=
  let up := if place < 0 then Nat.pow 10 place.natAbs else 1
  let unit := if place < 0 then denominator else Nat.pow 10 place.natAbs * denominator
  let t := b.value * up / unit
  let below := b.value * up - t * unit
  let above := (t + 1) * unit - b.value * up
  match 0 < t && b.covers up (t * unit), b.covers up ((t + 1) * unit) with
  | true, true => if below < above || (below == above && t % 2 == 0) then some t else some (t + 1)
  | true, false => some t
  | false, true => some (t + 1)
  | false, false => none

/-- The number of decimal digits before the point; below one, the zeros after it are taken off. -/
def magnitude (b : Binary) : Int :=
  (toString (b.value * Nat.pow 10 400 / denominator)).length - 400

end Binary

/-- The first grid, from coarse to fine, that holds a reading of the number. -/
def Binary.search (b : Binary) (magnitude : Int) : Nat → Nat → Nat × Int
  | 0, _ => (0, 0)
  | fuel + 1, count =>
    match b.onGrid? (magnitude - count) with
    | some n => (n, magnitude - count)
    | none => b.search magnitude fuel (count + 1)

/-- A number without its trailing zeros, and how many there were. -/
def dropZeros : Nat → Nat → Nat × Nat
  | 0, n => (n, 0)
  | fuel + 1, n =>
    if n % 10 == 0 && n != 0 then let (m, k) := dropZeros fuel (n / 10); (m, k + 1) else (n, 0)

/-- The fewest digits, and how many of them stand before the point (negative for zeros after it). -/
def Binary.digits (b : Binary) : String × Int :=
  let (n, place) := b.search b.magnitude 20 1
  let (m, k) := dropZeros 400 n
  let text := toString m
  (text, place + k + text.length)

/-- How digits become text. -/
structure FloatStyle where
  /-- Numbers with the point before this place are written with an exponent. -/
  smallest : Int
  /-- Numbers with the point after this place are written with an exponent. -/
  largest : Int
  /-- The least number of digits of an exponent. -/
  exponentDigits : Nat

/-- Numbers are positional from four zeros after the point to sixteen digits before it. -/
def plain : FloatStyle := ⟨-3, 16, 2⟩

/-- Digits with a point, or with an exponent. -/
def FloatStyle.write (style : FloatStyle) (digits : String) (point : Int) : String :=
  -- Digits that end before the point are filled up with zeros and get a place after it.
  if style.smallest ≤ point && point ≤ style.largest then
    if point ≤ 0 then "0." ++ String.ofList (List.replicate point.natAbs '0') ++ digits
    else if (digits.length : Int) ≤ point then
      digits ++ String.ofList (List.replicate (point.natAbs - digits.length) '0') ++ ".0"
    else
      String.ofList (digits.toList.take point.natAbs) ++ "." ++
        String.ofList (digits.toList.drop point.natAbs)
  else
    let e := point - 1
    let shown := toString e.natAbs
    let padded := String.ofList (List.replicate (style.exponentDigits - shown.length) '0') ++ shown
    let mantissa := match digits.toList with
      | [d] => String.ofList [d]
      | d :: rest => String.ofList (d :: '.' :: rest)
      | [] => "0"
    mantissa ++ "e" ++ (if e < 0 then "-" else "+") ++ padded

/-- The text of a floating-point number. -/
def floatText (x : Float) : String :=
  let bits := x.toBits.toNat
  let negative := bits.testBit 63
  let exponent := bits / Nat.pow 2 52 % Nat.pow 2 11
  let fraction := bits % Nat.pow 2 52
  let mark := if negative then "-" else ""
  if exponent == 2047 then if fraction == 0 then mark ++ "inf" else "nan"
  else if exponent == 0 && fraction == 0 then mark ++ "0.0"
  else
    let b : Binary :=
      if exponent == 0 then ⟨fraction, 1, false⟩
      else ⟨fraction + Nat.pow 2 52, exponent, fraction == 0 && 1 < exponent⟩
    let (digits, point) := b.digits
    mark ++ plain.write digits point

/-- The number nearest to `m · 10 ^ e`. -/
def ofScientific (m : Nat) (e : Int) : Float :=
  if m == 0 then 0.0
  else
    let size := (toString m).length + e
    if 400 < size then 1.0 / 0.0
    else if size < -400 then 0.0
    else if e < 0 then OfScientific.ofScientific m true e.natAbs
    else OfScientific.ofScientific m false e.natAbs

end TextCriteria.Decimal
