import TextCriteria.Failure.Complaint
import TextCriteria.Text.Ascii
import TextCriteria.Text.Blank
import TextCriteria.Text.Encoding
import TextCriteria.Value

namespace TextCriteria

open TextCriteria.Text

/-!
# Leaves of settings

A setting takes values that are not of its kind where their meaning is plain: a numeral for a number, a
word for a truth value.

* `readText`, `readWhole`, `readTruth` — what a value means for a setting of a kind; bytes mean what their text
  means.
* `readOptional` — settings that may be nothing.
* `Checked` — a result or all complaints; `Checked.both` joins the complaints of two parts.
-/

/-- A result, or everything that is wrong. -/
abbrev Checked (α : Type) := Except (List Complaint) α

/-- What needs no check. -/
def Checked.of {α : Type} (a : α) : Checked α := .ok a

/-- A function and its argument, with the complaints of both. -/
def Checked.both {α β : Type} : Checked (α → β) → Checked α → Checked β
  | .ok f, .ok a => .ok (f a)
  | .error e, .ok _ => .error e
  | .ok _, .error e => .error e
  | .error e, .error e' => .error (e ++ e')

/-- Complaints about a part of a whole, which is under a name there. -/
def Checked.under {α : Type} (name : String) : Checked α → Checked α
  | .ok a => .ok a
  | .error e => .error (e.map fun c => { c with place := .field name :: c.place })

/-! ### Texts -/

/-- The text that a value is, or that its bytes stand for. The two problems are for bytes that stand for none
    and for all else. -/
def readAsText (malformed otherwise : Problem) : Value → Except Problem String
  | .bytes b =>
    match (Encoding.utf8 false).decode b with
    | .ok s => .ok (String.ofList s)
    | .error _ => .error malformed
  | v =>
    match v.asText? with
    | some s => .ok s
    | none => .error otherwise

/-- A text, or the bytes of one. -/
def readText (v : Value) : Except Problem String := readAsText .stringUnicode .stringType v

/-- Nothing at all, or what else a setting may be. -/
def readOptional {α : Type} (read : Value → Except Problem α) : Value → Except Problem (Option α)
  | .null => .ok none
  | v => (read v).map some

/-! ### Whole numbers -/

/-- The blanks that may surround a numeral of a setting. -/
def isSettingBlank (c : Char) : Bool :=
  isBlank c && !(28 ≤ c.toNat && c.toNat ≤ 31)

/-- Digits with single underscores between them. -/
def groupedDigits? (afterDigit : Bool) : List Char → Option (List Char)
  | [] => if afterDigit then some [] else none
  | c :: rest =>
    if c == '_' then if afterDigit then groupedDigits? false rest else none
    else if isAsciiDigit c then (groupedDigits? true rest).map (c :: ·)
    else none

/-- The whole part of a numeral whose fraction, if it has one, is zero. -/
def wholePart? (s : List Char) : Option (List Char) :=
  match s.dropWhile fun c => c != '.' with
  | [] => some s
  | _ :: fraction =>
    if fraction.all fun c => c == '0' then some (s.takeWhile fun c => c != '.') else none

/-- A numeral without the zeros in front of it, between which any underscores may stand; one zero stays
where no other digit leads. -/
def withoutLeadingZeros? (s : List Char) : Option (List Char) :=
  let filler (c : Char) : Bool := c == '0' || c == '_'
  if s.head? != some '0' then some s
  else
    -- A numeral of zeros alone, or zeros before a point, needs a digit at its end.
    let lastIsZero := (s.takeWhile filler).getLast? == some '0'
    match s.dropWhile filler with
    | [] => if lastIsZero then some ['0'] else none
    | c :: rest =>
      if c == '.' then if lastIsZero then some ('0' :: c :: rest) else none
      else some (c :: rest)

/-- The digits of a numeral above zero, which may be filled up with zeros. -/
def unsignedDigits? (s : List Char) : Option (List Char) :=
  withoutLeadingZeros? s >>= wholePart? >>= groupedDigits? false

/-- The digits after a minus sign, of which the first is no zero, unless it is the only one; an underscore
may follow the sign. -/
def negatedDigits? (s : List Char) : Option (List Char) :=
  match wholePart? s >>= groupedDigits? true with
  | some ['0'] => some ['0']
  | some (c :: rest) => if c == '0' then none else some (c :: rest)
  | _ => none

/-- The number that a numeral stands for. -/
def readNumeral (s : List Char) : Except Problem Int :=
  let s := ((s.dropWhile isSettingBlank).reverse.dropWhile isSettingBlank).reverse
  let (negative, digits) := match s with
    | '-' :: rest => (true, negatedDigits? rest)
    | '+' :: rest => (false, unsignedDigits? rest)
    | s => (false, unsignedDigits? s)
  match digits with
  | none => .error .intParsing
  | some ds =>
    if maxDigits < ds.length then .error .intParsingSize
    else
      let n : Int := ofDigits 10 ds
      .ok (if negative then -n else n)

/-- The bound on numbers that come as floating-point numbers. -/
def wholeBound : Float := 9223372036854775808.0

/-- The whole number that a floating-point number is. -/
def readFloat (x : Float) : Except Problem Int :=
  if x.isNaN || x.isInf then .error .finiteNumber
  else if x.floor != x then .error .intFromFloat
  else if x < wholeBound && -wholeBound < x then .ok x.toInt64.toInt
  else .error .intParsingSize

/-- A number, a truth value as a number, or the numeral of a number. -/
def readWhole : Value → Except Problem Int
  | .int n => .ok n
  | .bool b => .ok (if b then 1 else 0)
  | .float x => readFloat x
  | v => do readNumeral (← readAsText .intParsing .intType v).toList

/-! ### Truth values -/

/-- The words for no. -/
def falseWords : List String := ["0", "f", "n", "no", "off", "false"]

/-- The words for yes. -/
def trueWords : List String := ["1", "t", "y", "on", "yes", "true"]

/-- A letter in lower case, if it is one of ASCII. -/
def lowerAsciiChar (c : Char) : Char :=
  if 'A' ≤ c && c ≤ 'Z' then Char.ofNat (c.toNat + 32) else c

/-- The truth value of a word in any case. -/
def readWord (s : String) : Except Problem Bool :=
  let w := String.ofList (s.toList.map lowerAsciiChar)
  if falseWords.contains w then .ok false
  else if trueWords.contains w then .ok true
  else .error .boolParsing

/-- The first number that no word of sixty-four bits with a sign holds. -/
def machineBound : Int := 9223372036854775808

/-- Zero and one are truth values. -/
def readBit (n : Int) : Except Problem Bool :=
  if n == 0 then .ok false else if n == 1 then .ok true else .error .boolParsing

/-- A truth value, a bit, or a word for one. -/
def readTruth : Value → Except Problem Bool
  | .bool b => .ok b
  | .int n => if -machineBound ≤ n && n < machineBound then readBit n else .error .boolType
  | .float x =>
    match readFloat x with
    | .ok n => readBit n
    | .error _ => .error .boolType
  | v => do readWord (← readAsText .boolParsing .boolType v)

end TextCriteria
