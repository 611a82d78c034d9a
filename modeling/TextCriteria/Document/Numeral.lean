import TextCriteria.Environment
import TextCriteria.Failure.Basic
import TextCriteria.Text.Ascii
import TextCriteria.Text.Numeral
import TextCriteria.Text.Pieces

namespace TextCriteria.Document

open TextCriteria.Text

/-!
# Numbers in documents

* `wholeNumber` — numerals in base two, eight, ten, sixteen and sixty.
* `realNumber` — decimals with a point, the words for infinity and no number, and base sixty.
-/

/-- A numeral without the underscores in it. -/
def bare (s : String) : List Char := s.toList.filter (· != '_')

/-- The sign of a numeral and what follows it. A numeral has at least one character. -/
def signed (s : List Char) : Except Failure (Bool × List Char) :=
  match s with
  | [] => .error .emptyNumeral
  | '-' :: rest => .ok (true, rest)
  | '+' :: rest => .ok (false, rest)
  | s => .ok (false, s)

/-- What is said about a text that is no numeral in a base. -/
def badNumeral {α : Type} (base : Nat) (s : List Char) : Except Failure α :=
  .error (.outOfRange ("invalid literal for int() with base " ++ toString base ++ ": " ++
    String.ofList (quotedChars s)))

/-- The letter that may mark a base after a zero. -/
def baseLetter (base : Nat) : Char := if base == 2 then 'b' else if base == 8 then 'o' else 'x'

/-- The value of a digit of a base. -/
def digitIn? (base : Nat) (c : Char) : Option Nat := do
  let d ← if isAsciiLetter c then some (digitOf (Char.ofNat (lower c.toNat))) else digitValue? c
  if d < base then some d else none

/-- The number that the values of digits stand for in a base. -/
def ofValues (base : Nat) (ds : List Nat) : Nat := ds.foldl (fun n d => n * base + d) 0

/-- The number in a base that is a power of two. Blanks around it, a sign and the mark of the base are
    allowed. -/
def based (base : Nat) (s : List Char) : Except Failure Int :=
  let inner := trim s
  let (negative, digits) := splitSign inner
  let digits := match digits with
    | '0' :: c :: rest => if c == baseLetter base then rest else '0' :: c :: rest
    | ds => ds
  match digits.mapM (digitIn? base) with
  | some (d :: ds) =>
    let n : Int := ofValues base (d :: ds)
    .ok (if negative then -n else n)
  | _ => badNumeral base s

/-- The number in base ten. -/
def decimalNumber (s : List Char) : Except Failure Int :=
  match integer? s with
  | some n => .ok n
  | none =>
    let count := (s.filter fun c => (digitValue? c).isSome).length
    if maxDigits < count then .error (.refused (.tooManyDigits count)) else badNumeral 10 s

/-- Parts in base sixty, the lowest first. -/
def sixties (parts : List Int) : Int := parts.foldr (fun d n => d + 60 * n) 0

/-- The whole number that a numeral stands for. -/
def wholeNumber (text : String) : Except Failure Int := do
  let (negative, s) ← signed (bare text)
  let n ← match s with
    | ['0'] => .ok 0
    | '0' :: 'b' :: rest => based 2 rest
    | '0' :: 'x' :: rest => based 16 rest
    | '0' :: rest => based 8 ('0' :: rest)
    | [] => .error .emptyNumeral
    | s =>
      if s.contains ':' then do
        let parts ← (pieces ':' s).mapM decimalNumber
        .ok (sixties parts.reverse)
      else decimalNumber s
  .ok (if negative then -n else n)

/-- The digits at the start, of any script, as digits of ASCII. -/
def leadingDigits : List Char → List Nat × List Char
  | [] => ([], [])
  | c :: rest =>
    match digitValue? c with
    | some d => let (ds, rest') := leadingDigits rest; (d :: ds, rest')
    | none => ([], c :: rest)

/-- The exponent at the end of a decimal. -/
def exponent? (s : List Char) : Option Int :=
  match s with
  | [] => some 0
  | 'e' :: rest =>
    let (negative, rest) := splitSign rest
    match leadingDigits rest with
    | (d :: ds, []) =>
      let e : Int := ofValues 10 (d :: ds)
      some (if negative then -e else e)
    | _ => none
  | _ => none

/-- The number that a decimal in lower case stands for. -/
def decimalReal? (s : List Char) : Option Float :=
  let (negative, s) := splitSign (trim s)
  let size :=
    if s == "inf".toList || s == "infinity".toList then some (1.0 / 0.0)
    else if s == "nan".toList then some (0.0 / 0.0)
    else
      let (whole, rest) := leadingDigits s
      let (part, rest) := match rest with
        | '.' :: rest => leadingDigits rest
        | rest => ([], rest)
      let digits := whole ++ part
      if digits.isEmpty then none
      else (exponent? rest).map fun e =>
        Decimal.ofScientific (ofValues 10 digits) (e - part.length)
  size.map fun x => if negative then -x else x

/-- The number that a decimal stands for, or what is said about it. -/
def decimalReal (s : List Char) : Except Failure Float :=
  match decimalReal? s with
  | some x => .ok x
  | none =>
    .error (.outOfRange ("could not convert string to float: " ++ String.ofList (quotedChars s)))

/-- Parts in base sixty, the lowest first. -/
def realSixties (base : Float) : List Float → Float → Float
  | [], n => n
  | x :: rest, n => realSixties (base * 60.0) rest (n + x * base)

/-- The number with a point that a numeral stands for. -/
def realNumber (text : String) : Except Failure Float := do
  let (negative, s) ← signed (bare (lowerCase text))
  let x ←
    if s == ".inf".toList then .ok (1.0 / 0.0)
    else if s == ".nan".toList then .ok (0.0 / 0.0)
    else if s.contains ':' then do
      let parts ← (pieces ':' s).mapM decimalReal
      .ok (realSixties 1.0 parts.reverse 0.0)
    else decimalReal s
  .ok (if negative then -x else x)

end TextCriteria.Document
