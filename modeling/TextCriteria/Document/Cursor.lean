import TextCriteria.Failure.Basic

namespace TextCriteria.Document

/-!
# Places in a document

* `Cursor` — what is left of a text, and how many characters, lines and columns lie before it.
* `Reading` — an operation that moves a cursor and may find the text malformed.
* `isBreak`, `isSpaceOrEnd` — the characters that end lines and words.

At the end of a text the next character is taken to be the null character, which no document holds.
-/

/-- A place in a text. -/
structure Cursor where
  rest : List Char
  index : Nat := 0
  line : Nat := 0
  column : Nat := 0
  deriving Repr

/-- The character at the end of a text. -/
def endMark : Char := '\x00'

/-- Line breaks. -/
def isBreak (c : Char) : Bool :=
  c == '\n' || c == '\r' || c == '\x85' || c == '\u2028' || c == '\u2029'

/-- Line breaks and the end. -/
def isBreakOrEnd (c : Char) : Bool := isBreak c || c == endMark

/-- Blanks, line breaks and the end. -/
def isSpaceOrEnd (c : Char) : Bool := isBreakOrEnd c || c == ' ' || c == '\t'

namespace Cursor

/-- The character at a distance. -/
def peek (c : Cursor) (distance : Nat) : Char := (c.rest.drop distance).headD endMark

/-- One character on. A line break ends a line unless it is the first half of one; the mark of byte
    order takes no column. -/
def step (c : Cursor) : Cursor :=
  match c.rest with
  | [] => c
  | x :: rest =>
    if isBreak x && !(x == '\r' && rest.head? == some '\n') then
      { rest, index := c.index + 1, line := c.line + 1, column := 0 }
    else
      { rest, index := c.index + 1, line := c.line
        column := if x == '\uFEFF' then c.column else c.column + 1 }

/-- Some characters on. -/
def forward (c : Cursor) : Nat → Cursor
  | 0 => c
  | n + 1 => c.step.forward n

/-- Whether the text goes on with a word. -/
def startsWith (c : Cursor) (word : List Char) : Bool := c.rest.take word.length == word

/-- Whether a line that begins here separates documents. -/
def atSeparator (c : Cursor) : Bool :=
  (c.startsWith ['-', '-', '-'] || c.startsWith ['.', '.', '.']) && isSpaceOrEnd (c.peek 3)

end Cursor

/-- An operation that moves a cursor. -/
abbrev Reading := StateT Cursor (Except Failure)

/-- The text has no tokens here. -/
def badToken {α : Type} : Reading α := throw (.document .tokens)

/-- The character at a distance. -/
def peek (distance : Nat) : Reading Char := return (← get).peek distance

/-- Some characters on. -/
def forward (n : Nat) : Reading Unit := modify fun c => c.forward n

/-- The characters that satisfy a test, and the cursor behind them. -/
def takeChars (test : Char → Bool) : Reading (List Char) := do
  let taken := (← get).rest.takeWhile test
  forward taken.length
  return taken

/-- What satisfies a test is passed over. -/
def skipChars (test : Char → Bool) : Reading Unit := do
  let _ ← takeChars test
  return

/-- Refuses the text unless the next character satisfies a test. -/
def expectNext (test : Char → Bool) : Reading Unit := do
  if test (← peek 0) then return else badToken

/-- The line break that comes next, if there is one. Those of two kinds stay as they are, and all
    others become a line feed. -/
def lineBreak : Reading (List Char) := do
  let c ← peek 0
  if c == '\n' || c == '\x85' then
    forward 1
    return ['\n']
  else if c == '\r' then
    forward (if (← peek 1) == '\n' then 2 else 1)
    return ['\n']
  else if c == '\u2028' || c == '\u2029' then
    forward 1
    return [c]
  else return []

/-- Blanks, a comment and the line break after it, on a line that has nothing else. -/
def restOfLine : Reading Unit := do
  skipChars (· == ' ')
  if (← peek 0) == '#' then skipChars fun c => !isBreakOrEnd c
  expectNext isBreakOrEnd
  let _ ← lineBreak
  return

end TextCriteria.Document
