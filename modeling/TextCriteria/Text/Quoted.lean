import TextCriteria.Text.Printable

namespace TextCriteria.Text

/-!
# Quoted text

Messages show a text between quotes, with everything a reader could not see written as an escape.

* `hexDigits` — a number in lower case hexadecimal with a least number of digits.
* `quoteMark` — the apostrophe, unless the text holds one and holds no double quote.
* `quoted` — the shown form.
* `quotedBytes` — the same for bytes, of which only those of printable ASCII characters show as they are.
-/

/-- A hexadecimal digit. -/
def hexDigit (n : Nat) : Char :=
  if n < 10 then Char.ofNat (48 + n) else Char.ofNat (87 + n)

/-- The last `width` hexadecimal digits of a number. -/
def hexDigits : Nat → Nat → List Char
  | 0, _ => []
  | width + 1, n => hexDigits width (n / 16) ++ [hexDigit (n % 16)]

/-- The mark around a quoted text: an apostrophe, or a double quote where that saves an escape. -/
def quoteMark (s : List Char) : Char :=
  if s.contains '\'' && !s.contains '"' then '"' else '\''

/-- One character inside quotes. -/
def quotedChar (mark c : Char) : List Char :=
  if c == mark || c == '\\' then ['\\', c]
  else if c == '\t' then ['\\', 't']
  else if c == '\n' then ['\\', 'n']
  else if c == '\r' then ['\\', 'r']
  else if isPrintable c then [c]
  else if c.toNat < 256 then '\\' :: 'x' :: hexDigits 2 c.toNat
  else if c.toNat < 65536 then '\\' :: 'u' :: hexDigits 4 c.toNat
  else '\\' :: 'U' :: hexDigits 8 c.toNat

/-- A text between quotes. -/
def quotedChars (s : List Char) : List Char :=
  let mark := quoteMark s
  mark :: (s.flatMap (quotedChar mark) ++ [mark])

/-- The same on strings. -/
def quoted (s : String) : String :=
  String.ofList (quotedChars s.toList)

/-- One byte inside quotes, as the character of its code. -/
def quotedByte (mark c : Char) : List Char :=
  if c == mark || c == '\\' then ['\\', c]
  else if c == '\t' then ['\\', 't']
  else if c == '\n' then ['\\', 'n']
  else if c == '\r' then ['\\', 'r']
  else if 32 ≤ c.toNat && c.toNat < 127 then [c]
  else '\\' :: 'x' :: hexDigits 2 c.toNat

/-- Bytes between quotes, behind a letter. -/
def quotedBytes (bytes : List UInt8) : String :=
  let s := bytes.map fun b => Char.ofNat b.toNat
  let mark := quoteMark s
  String.ofList ('b' :: mark :: (s.flatMap (quotedByte mark) ++ [mark]))

end TextCriteria.Text
