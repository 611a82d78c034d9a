import TextCriteria.Document.Cursor
import TextCriteria.Text.Ascii
import TextCriteria.Text.Encoding

namespace TextCriteria.Document

open TextCriteria.Text

/-!
# Scalars in a document

* `plainScalar` — a text without marks around it.
* `quotedScalar` — a text in single or double quotes.
* `blockScalar` — lines of their own, kept or folded.
* `tagAddress` — the address in a tag.
-/

/-! ### Breaks between parts -/

/-- Line breaks with blanks between them. `stop` tells that a line begins that separates
    documents. -/
def foldedBreaks (blank : Char → Bool) (acc : List Char) :
    Nat → Reading (List Char × Bool)
  | 0 => return (acc, false)
  | fuel + 1 => do
    skipChars blank
    if isBreak (← peek 0) then
      let b ← lineBreak
      if (← get).atSeparator then return (acc ++ b, true)
      foldedBreaks blank (acc ++ b) fuel
    else return (acc, false)

/-- A first break and those after it as they appear in a text: one line feed is a blank. -/
def joinBreaks (first more : List Char) : List Char :=
  if first != ['\n'] then first ++ more
  else if more.isEmpty then [' '] else more

/-- As many steps as there are characters left. -/
def remaining : Reading Nat := return (← get).rest.length + 1

/-! ### Plain scalars -/

/-- The characters that separate and enclose inside brackets. -/
def isFlowMark (c : Char) : Bool :=
  c == ',' || c == '[' || c == ']' || c == '\x7b' || c == '\x7d'

/-- Whether a plain scalar ends before a character, of which the next one is known. -/
def endsPlain (flow : Bool) (c next : Char) : Bool :=
  isSpaceOrEnd c ||
  (c == ':' && (isSpaceOrEnd next || (flow && isFlowMark next))) ||
  (flow && (c == '?' || isFlowMark c))

/-- The length of the part of a plain scalar that comes next. -/
def plainLength (flow : Bool) : List Char → Nat
  | [] => 0
  | c :: rest => if endsPlain flow c (rest.headD endMark) then 0 else plainLength flow rest + 1

/-- What stands between two parts of a plain scalar: nothing if the scalar ends here. The truth value
    tells whether there was a line break. -/
def plainGap : Reading (List Char × Bool) := do
  let blanks ← takeChars (· == ' ')
  if isBreak (← peek 0) then
    let b ← lineBreak
    if (← get).atSeparator then return ([], true)
    let (more, stop) ← foldedBreaks (· == ' ') [] (← remaining)
    if stop then return ([], true) else return (joinBreaks b more, true)
  else return (blanks, false)

/-- The parts of a plain scalar. `gap` is what stands before the next part. The truth value tells
    whether a line break ended it. -/
def plainParts (flow : Bool) (indent : Int) (acc gap : List Char) (broken : Bool) :
    Nat → Reading (List Char × Bool)
  | 0 => return (acc, broken)
  | fuel + 1 => do
    let length := plainLength flow (← get).rest
    if (← peek 0) == '#' || length == 0 then return (acc, broken)
    let part := (← get).rest.take length
    forward length
    let (next, broken) ← plainGap
    let acc := acc ++ gap ++ part
    if next.isEmpty || (← peek 0) == '#' || (!flow && (← get).column < indent) then
      return (acc, broken)
    plainParts flow indent acc next broken fuel

/-- A plain scalar, and whether a line break ended it. -/
def plainScalar (flow : Bool) (indent : Int) : Reading (List Char × Bool) := do
  plainParts flow (indent + 1) [] [] false (← remaining)

/-! ### Quoted scalars -/

/-- The characters that have an escape of one letter. -/
def escapes : List (Char × Char) :=
  [ ('0', '\x00'), ('a', '\x07'), ('b', '\x08'), ('t', '\t'), ('\t', '\t'), ('n', '\n'),
    ('v', '\x0b'), ('f', '\x0c'), ('r', '\r'), ('e', '\x1b'), (' ', ' '), ('"', '"'),
    ('\\', '\\'), ('/', '/'), ('N', '\x85'), ('_', '\xa0'), ('L', '\u2028'), ('P', '\u2029')]

/-- The number of digits of the escapes by code. -/
def codeLengths : List (Char × Nat) := [('x', 2), ('u', 4), ('U', 8)]

/-- Line breaks after a line in quotes. A line that separates documents must not follow. -/
def quotedBreaks (acc : List Char) : Nat → Reading (List Char)
  | 0 => return acc
  | fuel + 1 => do
    if (← get).atSeparator then badToken
    skipChars fun c => c == ' ' || c == '\t'
    if isBreak (← peek 0) then
      let b ← lineBreak
      quotedBreaks (acc ++ b) fuel
    else return acc

/-- An escape after its backslash. -/
def escape : Reading (List Char) := do
  let c ← peek 0
  match escapes.lookup c, codeLengths.lookup c with
  | some x, _ =>
    forward 1
    return [x]
  | none, some count => do
    forward 1
    let digits := (← get).rest.take count
    if digits.length != count || !digits.all isHex then badToken
    let code := ofDigits 16 digits
    if 0x110000 ≤ code then throw (.outOfRange "chr() arg not in range(0x110000)")
    forward count
    return [Char.ofNat code]
  | none, none =>
    if isBreak c then
      let _ ← lineBreak
      quotedBreaks [] (← remaining)
    else badToken

/-- The characters of a quoted scalar up to a blank, a line break or its end. -/
def quotedRun (double : Bool) (acc : List Char) : Nat → Reading (List Char)
  | 0 => return acc
  | fuel + 1 => do
    let run ← takeChars fun c => !(isSpaceOrEnd c || c == '\'' || c == '"' || c == '\\')
    let acc := acc ++ run
    let c ← peek 0
    if !double && c == '\'' && (← peek 1) == '\'' then
      forward 2
      quotedRun double (acc ++ ['\'']) fuel
    else if (double && c == '\'') || (!double && (c == '"' || c == '\\')) then
      forward 1
      quotedRun double (acc ++ [c]) fuel
    else if double && c == '\\' then
      forward 1
      let e ← escape
      quotedRun double (acc ++ e) fuel
    else return acc

/-- Blanks and line breaks inside a quoted scalar. -/
def quotedGap : Reading (List Char) := do
  let blanks ← takeChars fun c => c == ' ' || c == '\t'
  let c ← peek 0
  if c == endMark then badToken
  if isBreak c then
    let b ← lineBreak
    let more ← quotedBreaks [] (← remaining)
    return joinBreaks b more
  else return blanks

/-- The rest of a quoted scalar. -/
def quotedParts (double : Bool) (quote : Char) (acc : List Char) : Nat → Reading (List Char)
  | 0 => return acc
  | fuel + 1 => do
    if (← peek 0) == quote then
      forward 1
      return acc
    let gap ← quotedGap
    let run ← quotedRun double [] (← remaining)
    quotedParts double quote (acc ++ gap ++ run) fuel

/-- A scalar in quotes. -/
def quotedScalar (quote : Char) : Reading (List Char) := do
  let double := quote == '"'
  forward 1
  let run ← quotedRun double [] (← remaining)
  quotedParts double quote run (← remaining)

/-! ### Block scalars -/

/-- What becomes of the line breaks at the end of a block. -/
inductive Chomping
  | strip
  | clip
  | keep
  deriving DecidableEq, Repr

/-- The indicator of what becomes of the last breaks, if it comes next. -/
def chomping? (c : Char) : Option Chomping :=
  if c == '+' then some .keep else if c == '-' then some .strip else none

/-- The indicator of how far a block is indented, if it comes next. -/
def increment : Reading (Option Nat) := do
  let c ← peek 0
  if isAsciiDigit c then
    if c == '0' then badToken
    forward 1
    return some (digitOf c)
  else return none

/-- The indicators of a block, in any order. -/
def blockIndicators : Reading (Chomping × Option Nat) := do
  let result ← match chomping? (← peek 0) with
    | some chomping => do
      forward 1
      pure (chomping, ← increment)
    | none => do
      match ← increment with
      | none => pure (Chomping.clip, none)
      | some n => do
        match chomping? (← peek 0) with
        | some chomping => do
          forward 1
          pure (chomping, some n)
        | none => pure (Chomping.clip, some n)
  expectNext fun c => isBreakOrEnd c || c == ' '
  return result

/-- The breaks before the first line of a block, and the greatest column that they reach. -/
def blockIndent (acc : List Char) (most : Nat) : Nat → Reading (List Char × Nat)
  | 0 => return (acc, most)
  | fuel + 1 => do
    let c ← peek 0
    if c == ' ' then
      forward 1
      blockIndent acc (max most (← get).column) fuel
    else if isBreak c then
      let b ← lineBreak
      blockIndent (acc ++ b) most fuel
    else return (acc, most)

/-- Blanks up to a column. -/
def skipIndent (indent : Int) : Reading Unit := do
  let c ← get
  let free := (indent - c.column).toNat
  forward ((c.rest.take free).takeWhile (· == ' ')).length

/-- The breaks after a line of a block. -/
def blockBreaks (indent : Int) (acc : List Char) : Nat → Reading (List Char)
  | 0 => return acc
  | fuel + 1 => do
    skipIndent indent
    if isBreak (← peek 0) then
      let b ← lineBreak
      blockBreaks indent (acc ++ b) fuel
    else return acc

/-- The lines of a block. `breaks` stand before the next line. The results are the text, the break
    after the last line and the breaks that follow it. -/
def blockLines (folded : Bool) (indent : Int) (acc breaks : List Char) :
    Nat → Reading (List Char × List Char × List Char)
  | 0 => return (acc, [], breaks)
  | fuel + 1 => do
    let first ← peek 0
    let text ← takeChars fun c => !isBreakOrEnd c
    let acc := acc ++ breaks ++ text
    let b ← lineBreak
    let breaks ← blockBreaks indent [] (← remaining)
    let next ← peek 0
    if (← get).column == indent && next != endMark then
      let blank (c : Char) := c == ' ' || c == '\t'
      let acc :=
        if folded && b == ['\n'] && !blank first && !blank next then
          if breaks.isEmpty then acc ++ [' '] else acc
        else acc ++ b
      blockLines folded indent acc breaks fuel
    else return (acc, b, breaks)

/-- A block of lines below an indentation. -/
def blockScalar (folded : Bool) (parent : Int) : Reading (List Char) := do
  forward 1
  let (chomping, increment) ← blockIndicators
  restOfLine
  let least := max (parent + 1) 1
  let (breaks, indent) ← match increment with
    | none => do
      let (breaks, most) ← blockIndent [] 0 (← remaining)
      pure (breaks, max least most)
    | some n => do
      let indent := least + n - 1
      pure (← blockBreaks indent [] (← remaining), indent)
  let c ← get
  let (text, last, breaks) ←
    if c.column == indent && c.peek 0 != endMark then
      blockLines folded indent [] breaks (← remaining)
    else pure ([], [], breaks)
  match chomping with
  | .strip => return text
  | .clip => return text ++ last
  | .keep => return text ++ last ++ breaks

/-! ### Tags -/

/-- The characters of names. -/
def isNameChar (c : Char) : Bool := isAsciiLetter c || isAsciiDigit c || c == '-' || c == '_'

/-- The characters of addresses. -/
def isAddressChar (c : Char) : Bool :=
  isAsciiLetter c || isAsciiDigit c || "-;/?:@&=+$,_.!~*'()[]%".toList.contains c

/-- Bytes that are written in hexadecimal after percent signs. -/
def addressBytes (acc : Bytes) : Nat → Reading Bytes
  | 0 => return acc
  | fuel + 1 => do
    if (← peek 0) != '%' then return acc
    forward 1
    let digits := (← get).rest.take 2
    if digits.length != 2 || !digits.all isHex then badToken
    forward 2
    addressBytes (acc ++ [UInt8.ofNat (ofDigits 16 digits)]) fuel

/-- The address in a tag. -/
def addressParts (acc : List Char) : Nat → Reading (List Char)
  | 0 => return acc
  | fuel + 1 => do
    let run ← takeChars fun c => isAddressChar c && c != '%'
    if (← peek 0) == '%' then
      let bytes ← addressBytes [] (← remaining)
      match (Encoding.utf8 false).decode bytes with
      | .ok s => addressParts (acc ++ run ++ s) fuel
      | .error _ => badToken
    else return acc ++ run

/-- The address in a tag, which is not empty. -/
def tagAddress : Reading (List Char) := do
  if isAddressChar (← peek 0) then addressParts [] (← remaining) else badToken

/-- The handle of a tag: marks alone, or a name between two of them. -/
def tagHandle : Reading (List Char) := do
  expectNext (· == '!')
  if (← peek 1) == ' ' then
    forward 1
    return ['!']
  let name := ((← get).rest.drop 1).takeWhile isNameChar
  if (← peek (name.length + 1)) != '!' then badToken
  forward (name.length + 2)
  return '!' :: (name ++ ['!'])

end TextCriteria.Document
