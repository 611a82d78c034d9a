import TextCriteria.Decimal.Rounded
import TextCriteria.Failure.Basic
import TextCriteria.Text.Ascii
import TextCriteria.Text.Quoted

namespace TextCriteria.Log

open TextCriteria.Text TextCriteria.Decimal

/-!
# Templates of log lines

A template is text with places to fill: a percent sign, the name of a field in parentheses, flags, a
width, a precision and a letter that says how the value is written.

* `Slot` — a place to fill; `readSlot`, the place that begins after a percent sign.
* `Slot.fill` — the text of a value in a place.
* `fillTemplate` — a template with the fields of a record.
-/

/-- The fields of a record. -/
abbrev Fields := List (String × Value)

/-- What is written in front of a value and how it fills its width. -/
structure SlotFlags where
  left : Bool := false
  plus : Bool := false
  blank : Bool := false
  alternate : Bool := false
  zero : Bool := false
  deriving DecidableEq, Repr

/-- A place to fill. -/
structure Slot where
  flags : SlotFlags
  width : Nat
  precision : Option Nat
  conversion : Char
  deriving DecidableEq, Repr

/-- What remains of the values after a field was looked up: the value, until it is used. -/
abbrev Pending := Option Value

/-- A template cannot be filled. -/
def refuse {α : Type} (text : String) (isValue : Bool) : Except Failure α :=
  .error (.logConversion text isValue)

/-- The value that is used next. -/
def takeValue : Pending → Except Failure Value
  | some v => .ok v
  | none => refuse "not enough arguments for format string" false

/-! ### Reading a place -/

/-- The name of a field up to the parenthesis that closes it; parentheses inside are balanced. -/
def fieldName (acc : List Char) (depth : Nat) : List Char → Except Failure (String × List Char)
  | [] => refuse "incomplete format key" true
  | '(' :: rest => fieldName ('(' :: acc) (depth + 1) rest
  | ')' :: rest =>
    match depth with
    | 0 => .ok (String.ofList acc.reverse, rest)
    | depth + 1 => fieldName (')' :: acc) depth rest
  | c :: rest => fieldName (c :: acc) depth rest

/-- Flags in any order. -/
def slotFlags (f : SlotFlags) : List Char → SlotFlags × List Char
  | '-' :: rest => slotFlags { f with left := true } rest
  | '+' :: rest => slotFlags { f with plus := true } rest
  | ' ' :: rest => slotFlags { f with blank := true } rest
  | '#' :: rest => slotFlags { f with alternate := true } rest
  | '0' :: rest => slotFlags { f with zero := true } rest
  | s => (f, s)

/-- A number in digits, or a star for the next value. -/
def slotNumber (pending : Pending) : List Char → Except Failure (Option Int × Pending × List Char)
  | '*' :: rest => do
    match ← takeValue pending with
    | .int n => .ok (some n, none, rest)
    | .bool b => .ok (some (if b then 1 else 0), none, rest)
    | _ => refuse "* wants int" false
  | s =>
    let ds := s.takeWhile isAsciiDigit
    if ds.isEmpty then .ok (none, pending, s)
    else .ok (some (ofDigits 10 ds), pending, s.dropWhile isAsciiDigit)

/-- A place with what remains of its value and of the template. A negative width means that the value
    stands at the left. -/
def readSlot (pending : Pending) (s : List Char) : Except Failure (Slot × Pending × List Char) := do
  let (flags, s) := slotFlags {} s
  let (width, pending, s) ← slotNumber pending s
  let width := width.getD 0
  -- Only a width that comes as a value can be negative.
  let flags := if width < 0 then { flags with left := true } else flags
  let (precision, pending, s) ← match s with
    | '.' :: rest => do
      let (precision, pending, s) ← slotNumber pending rest
      .ok (some (precision.getD 0).toNat, pending, s)
    | s => .ok (none, pending, s)
  let s := match s with
    | 'h' :: rest => rest
    | 'l' :: rest => rest
    | 'L' :: rest => rest
    | s => s
  match s with
  | [] => refuse "incomplete format" true
  | c :: rest => .ok (⟨flags, width.natAbs, precision, c⟩, pending, rest)

/-! ### Writing a value -/

/-- Text with blanks up to a width. -/
def padText (slot : Slot) (s : List Char) : String :=
  let gap := List.replicate (slot.width - s.length) ' '
  String.ofList (if slot.flags.left then s ++ gap else gap ++ s)

/-- A number with its sign and the mark of its base, and zeros or blanks up to a width. -/
def padNumber (slot : Slot) (negative : Bool) (mark : List Char) (digits : List Char) : String :=
  let sign :=
    if negative then ['-'] else if slot.flags.plus then ['+']
    else if slot.flags.blank then [' '] else []
  let front := sign ++ mark
  if slot.flags.zero && !slot.flags.left then
    let gap := List.replicate (slot.width - front.length - digits.length) '0'
    String.ofList (front ++ gap ++ digits)
  else padText slot (front ++ digits)

/-- Digits with at least so many of them. -/
def atLeastDigits (precision : Option Nat) (digits : List Char) : List Char :=
  List.replicate (precision.getD 0 - digits.length) '0' ++ digits

/-- The letters of a text in upper case. -/
def upperAscii (s : List Char) : List Char :=
  s.map fun c => if 'a' ≤ c && c ≤ 'z' then Char.ofNat (c.toNat - 32) else c

/-- The whole part of a floating-point number. -/
def truncate (x : Float) : Int :=
  let f := Fraction.ofFloat x
  let n : Int := (f.num / f.den : Nat)
  if x < 0 then -n else n

/-- The whole number that a value is written as in base ten. -/
def wholeOf (c : Char) : Value → Except Failure Int
  | .int n => .ok n
  | .bool b => .ok (if b then 1 else 0)
  | .float x =>
    if x.isNaN then refuse "cannot convert float NaN to integer" true
    else if x.isInf then refuse "cannot convert float infinity to integer" true
    else .ok (truncate x)
  | v =>
    refuse ("%" ++ String.ofList [c] ++ " format: a real number is required, not " ++ v.fullKind) false

/-- The whole number that a value is in another base. -/
def exactOf (c : Char) : Value → Except Failure Int
  | .int n => .ok n
  | .bool b => .ok (if b then 1 else 0)
  | v =>
    refuse ("%" ++ String.ofList [c] ++ " format: an integer is required, not " ++ v.fullKind) false

/-- The floating-point number that a value is. -/
def realOf : Value → Except Failure Float
  | .int n => .ok (Float.ofInt n)
  | .bool b => .ok (if b then 1.0 else 0.0)
  | .float x => .ok x
  | v => refuse ("must be real number, not " ++ v.fullKind) false

/-- A floating-point number in the form of a letter. -/
def realDigits (slot : Slot) (x : Float) : List Char :=
  if x.isNaN then "nan".toList
  else if x.isInf then "inf".toList
  else
    let places := slot.precision.getD 6
    let f := Fraction.ofFloat x
    let write :=
      if slot.conversion == 'e' || slot.conversion == 'E' then scientificDigits
      else if slot.conversion == 'f' || slot.conversion == 'F' then fixedDigits
      else generalDigits
    (write slot.flags.alternate places f).toList

/-- A text with escapes for all that is not ASCII. -/
def asciiOnly (s : String) : List Char :=
  s.toList.flatMap fun c =>
    if c.toNat < 128 then [c]
    else if c.toNat < 256 then '\\' :: 'x' :: hexDigits 2 c.toNat
    else if c.toNat < 65536 then '\\' :: 'u' :: hexDigits 4 c.toNat
    else '\\' :: 'U' :: hexDigits 8 c.toNat

/-- A character by its code or as a text of one. -/
def characterOf : Value → Except Failure (List Char)
  | .int n =>
    if 0 ≤ n && n < 0x110000 then .ok [Char.ofNat n.toNat]
    else .error (.logCharacter)
  | .str s =>
    match s.toList with
    | [c] => .ok [c]
    | _ => refuse "%c requires int or char" false
  | _ => refuse "%c requires int or char" false

/-- The text of a value in a place. `index` is the place of the letter in the template. -/
def Slot.fill (slot : Slot) (index : Nat) (v : Value) : Except Failure String := do
  let c := slot.conversion
  let cut (s : List Char) := match slot.precision with
    | some n => s.take n
    | none => s
  if c == 's' then .ok (padText slot (cut (← v.text).toList))
  else if c == 'r' then .ok (padText slot (cut (← v.shown).toList))
  else if c == 'a' then .ok (padText slot (cut (asciiOnly (← v.shown))))
  else if c == 'd' || c == 'i' || c == 'u' then
    let n ← wholeOf c v
    let digits ← orUnwritable (Value.numeral? n.natAbs)
    .ok (padNumber slot (n < 0) [] (atLeastDigits slot.precision digits.toList))
  else if c == 'x' || c == 'X' || c == 'o' then
    let n ← exactOf c v
    let digits := atLeastDigits slot.precision (Nat.toDigits (if c == 'o' then 8 else 16) n.natAbs)
    let mark := if slot.flags.alternate then ['0', c] else []
    .ok (padNumber slot (n < 0) mark (if c == 'X' then upperAscii digits else digits))
  else if c == 'e' || c == 'E' || c == 'f' || c == 'F' || c == 'g' || c == 'G' then
    let x ← realOf v
    let digits := realDigits slot x
    let digits := if c == 'E' || c == 'F' || c == 'G' then upperAscii digits else digits
    .ok (padNumber slot (x.toBits.toNat.testBit 63 && !x.isNaN) [] digits)
  else if c == 'c' then do
    .ok (padText slot (← characterOf v))
  else
    let shown := if 31 ≤ c.toNat && c.toNat < 126 then c else '?'
    refuse ("unsupported format character '" ++ String.ofList [shown] ++ "' (0x" ++
      String.ofList (Nat.toDigits 16 c.toNat) ++ ") at index " ++ toString index) true

/-! ### Templates -/

/-- A template with the fields of a record. `acc` is the text so far, `pending` the value of the last
    field until it is used, and `fuel` bounds the number of characters and places. -/
def fillChars (fields : Fields) (size : Nat) (acc : List Char) (pending : Pending) :
    Nat → List Char → Except Failure String
  | 0, _ => .ok (String.ofList acc.reverse)
  | _, [] => .ok (String.ofList acc.reverse)
  | fuel + 1, '%' :: s => do
    let (pending, s) ← match s with
      | '(' :: rest => do
        let (name, rest) ← fieldName [] 0 rest
        match fields.lookup name with
        | some v => .ok (some v, rest)
        | none => .error (.logField name)
      | s => .ok (pending, s)
    let (slot, pending, s) ← readSlot pending s
    if slot.conversion == '%' then fillChars fields size ('%' :: acc) pending fuel s
    else
      let v ← takeValue pending
      let text ← slot.fill (size - s.length - 1) v
      -- A value is used once: what asks for another one without a name finds none.
      fillChars fields size (text.toList.reverse ++ acc) none fuel s
  | fuel + 1, c :: s => fillChars fields size (c :: acc) pending fuel s

/-- A template with the fields of a record. -/
def fillTemplate (template : String) (fields : Fields) : Except Failure String :=
  let s := template.toList
  let all : Value := .dict (fields.map fun f => (.str f.1, f.2))
  fillChars fields s.length [] (some all) (s.length + 1) s

end TextCriteria.Log
