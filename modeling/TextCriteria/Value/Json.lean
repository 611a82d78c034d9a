import TextCriteria.Text.Ascii
import TextCriteria.Value

namespace TextCriteria

open TextCriteria.Text

/-!
# Values written as JSON

* `Json.number` — the number at the start of a text: whole unless it has a fraction or an exponent.
* `Json.string` — the rest of a text in quotes, with its escapes read.
* `Json.value` — the value at the start of a text.
* `Value.ofJson?` — the value that a whole text states.

The words `NaN` and `Infinity` are numbers too. A name that comes twice in an object keeps its first
place and its last value.
-/

namespace Json

/-- What follows the white space at the start. -/
def skip : List Char → List Char
  | [] => []
  | c :: rest => if c == ' ' || c == '\t' || c == '\n' || c == '\r' then skip rest else c :: rest

/-- The digits at the start and what follows them. -/
def digits (s : List Char) : List Char × List Char :=
  (s.takeWhile isAsciiDigit, s.dropWhile isAsciiDigit)

/-- The digits of a fraction, if there is one. -/
def fraction (s : List Char) : List Char × List Char :=
  match s with
  | '.' :: rest =>
    let (ds, rest') := digits rest
    if ds.isEmpty then ([], s) else (ds, rest')
  | _ => ([], s)

/-- An exponent, if there is one. -/
def exponent (s : List Char) : Option Int × List Char :=
  match s with
  | c :: rest =>
    if c == 'e' || c == 'E' then
      let (negative, rest) := splitSign rest
      let (ds, rest') := digits rest
      if ds.isEmpty then (none, s)
      else
        let e : Int := ofDigits 10 ds
        (some (if negative then -e else e), rest')
    else (none, s)
  | [] => (none, s)

/-- The number at the start. A zero is followed by no other digit of the whole part. -/
def number (s : List Char) : Option (Value × List Char) :=
  let (negative, body) := match s with
    | '-' :: rest => (true, rest)
    | s => (false, s)
  let (whole, rest) := match body with
    | '0' :: rest => (['0'], rest)
    | body => digits body
  if whole.isEmpty then none
  else
    let (part, rest) := fraction rest
    let (power, rest) := exponent rest
    if part.isEmpty && power.isNone then
      if maxDigits < whole.length then none
      else
        let n : Int := ofDigits 10 whole
        some (.int (if negative then -n else n), rest)
    else
      let x := Decimal.ofScientific (ofDigits 10 (whole ++ part)) (power.getD 0 - part.length)
      some (.float (if negative then -x else x), rest)

/-- Four hexadecimal digits at the start. -/
def unit (s : List Char) : Option (Nat × List Char) :=
  let (ds, rest) := readAtMost isHex 4 s
  if ds.length == 4 then some (ofDigits 16 ds, rest) else none

/-- The characters of the escapes that have one letter. -/
def escape? : Char → Option Char
  | '"' => some '"'
  | '\\' => some '\\'
  | '/' => some '/'
  | 'b' => some '\x08'
  | 'f' => some '\x0c'
  | 'n' => some '\n'
  | 'r' => some '\r'
  | 't' => some '\t'
  | _ => none

/-- A character by its code, or by two codes if the first one opens a pair. -/
def coded (s : List Char) : Option (Char × List Char) := do
  let (high, rest) ← unit s
  if 0xd800 ≤ high && high < 0xdc00 then
    match rest with
    | '\\' :: 'u' :: more =>
      let (low, rest') ← unit more
      if 0xdc00 ≤ low && low < 0xe000 then
        some (Char.ofNat (0x10000 + (high - 0xd800) * 0x400 + (low - 0xdc00)), rest')
      else some (Char.ofNat high, rest)
    | _ => some (Char.ofNat high, rest)
  else some (Char.ofNat high, rest)

/-- The rest of a text in quotes. `acc` holds what was read, last character first, and `fuel` bounds
    the number of characters. -/
def string (acc : List Char) : Nat → List Char → Option (String × List Char)
  | 0, _ => none
  | _, [] => none
  | _ + 1, '"' :: rest => some (String.ofList acc.reverse, rest)
  | fuel + 1, '\\' :: 'u' :: rest => do
    let (c, rest') ← coded rest
    string (c :: acc) fuel rest'
  | fuel + 1, '\\' :: c :: rest => do string ((← escape? c) :: acc) fuel rest
  | fuel + 1, c :: rest => if c.toNat < 32 then none else string (c :: acc) fuel rest

/-- What follows a word. -/
def afterWord? : List Char → List Char → Option (List Char)
  | [], s => some s
  | c :: word, d :: s => if c == d then afterWord? word s else none
  | _, [] => none

/-- The words that are values. -/
def words : List (String × Value) :=
  [ ("null", .null), ("true", .bool true), ("false", .bool false), ("NaN", .float (0.0 / 0.0)),
    ("Infinity", .float (1.0 / 0.0)), ("-Infinity", .float (-1.0 / 0.0))]

/-- The word at the start. -/
def word (s : List Char) : Option (Value × List Char) :=
  words.findSome? fun (w, v) => (afterWord? w.toList s).map fun rest => (v, rest)

/-- Entries with one more, which replaces the value of an earlier one of its name. -/
def put (key : String) (v : Value) : List (Value × Value) → List (Value × Value)
  | [] => [(.str key, v)]
  | (.str k, w) :: rest => if k == key then (.str k, v) :: rest else (.str k, w) :: put key v rest
  | e :: rest => e :: put key v rest

mutual

/-- The value at the start, after white space. -/
def value : Nat → List Char → Option (Value × List Char)
  | 0, _ => none
  | fuel + 1, s =>
    match skip s with
    | '"' :: rest => (string [] (rest.length + 1) rest).map fun (t, rest) => (.str t, rest)
    | '[' :: rest =>
      match skip rest with
      | ']' :: rest => some (.list [], rest)
      | _ => items fuel [] rest
    | '\x7b' :: rest =>
      match skip rest with
      | '\x7d' :: rest => some (.dict [], rest)
      | _ => entries fuel [] rest
    | s => word s <|> number s

/-- The rest of a list. `acc` holds the items so far, last one first. -/
def items : Nat → List Value → List Char → Option (Value × List Char)
  | 0, _, _ => none
  | fuel + 1, acc, s => do
    let (v, rest) ← value fuel s
    match skip rest with
    | ',' :: rest => items fuel (v :: acc) rest
    | ']' :: rest => some (.list (v :: acc).reverse, rest)
    | _ => none

/-- The rest of an object. -/
def entries : Nat → List (Value × Value) → List Char → Option (Value × List Char)
  | 0, _, _ => none
  | fuel + 1, acc, s =>
    match skip s with
    | '"' :: rest => do
      let (key, rest) ← string [] (rest.length + 1) rest
      match skip rest with
      | ':' :: rest =>
        let (v, rest) ← value fuel rest
        match skip rest with
        | ',' :: rest => entries fuel (put key v acc) rest
        | '\x7d' :: rest => some (.dict (put key v acc), rest)
        | _ => none
      | _ => none
    | _ => none

end

end Json

/-- The value that a text states, if it states one and nothing else. -/
def Value.ofJson? (text : String) : Option Value := do
  let s := text.toList
  let (v, rest) ← Json.value (s.length + 1) s
  if (Json.skip rest).isEmpty then some v else none

end TextCriteria
