import TextCriteria.Document.Scalar

namespace TextCriteria.Document

open TextCriteria.Text

/-!
# Tokens of a document

* `Token` — the units that a document is read in.
* `Lexer` — what is known between two tokens: indentations, brackets, and the tokens that may turn out
  to be keys.
* `Lexer.next` — the next tokens of a text.
* `tokens` — all tokens, or those before a fault: a token that may still turn out to be a key is not
  delivered before what follows it is read.
-/

/-- What a directive says. -/
inductive Directive
  | version (major : Nat)
  | handle (name address : List Char)
  | unknown
  deriving DecidableEq, Repr

/-- The units of a document. -/
inductive Token
  | directive (d : Directive)
  | documentStart
  | documentEnd
  | streamEnd
  | blockSequence
  | blockMapping
  | blockEnd
  | sequenceOpen
  | sequenceClose
  | mappingOpen
  | mappingClose
  | blockEntry
  | flowEntry
  | key
  | value
  | alias (name : List Char)
  | anchor (name : List Char)
  | tag (handle : Option (List Char)) (address : List Char)
  | scalar (plain : Bool) (text : List Char)
  deriving DecidableEq, Repr

/-- A token that may turn out to be a key: its number among all tokens and its place. On the left edge
    of a block it has to be one. -/
structure Candidate where
  number : Nat
  needed : Bool
  index : Nat
  line : Nat
  column : Nat
  deriving DecidableEq, Repr

/-- What is known between two tokens. -/
structure Lexer where
  cursor : Cursor
  produced : Array Token := #[]
  indent : Int := -1
  outer : List Int := []
  depth : Int := 0
  keyAllowed : Bool := true
  candidates : List (Int × Candidate) := []
  finished : Bool := false

namespace Lexer

/-- An operation that may find the text malformed. -/
abbrev Step := StateT Lexer (Except Failure)

/-- An operation on the text alone. -/
def reading {α : Type} (r : Reading α) : Step α := do
  let l ← get
  let (a, cursor) ← r.run l.cursor
  set { l with cursor }
  return a

/-- The text is malformed. -/
def refuse {α : Type} : Step α := throw (.document .tokens)

/-- A token is added. -/
def produce (t : Token) : Step Unit :=
  modify fun l => { l with produced := l.produced.push t }

/-- Whether keys may come next. -/
def allowKey (b : Bool) : Step Unit := modify fun l => { l with keyAllowed := b }

/-- Some characters on. -/
def advance (n : Nat) : Step Unit := modify fun l => { l with cursor := l.cursor.forward n }

/-- Whether the text is inside brackets. -/
def inFlow (l : Lexer) : Bool := l.depth != 0

/-! ### Keys -/

/-- A candidate is too far away to be a key: it is on another line, or long ago. -/
def isStale (l : Lexer) (c : Candidate) : Bool :=
  c.line != l.cursor.line || 1024 < l.cursor.index - c.index

/-- Candidates that are too far away are dropped. -/
def dropStale : Step Unit := do
  let l ← get
  -- A token on the left edge of a block cannot be anything but a key.
  if l.candidates.any fun c => l.isStale c.2 && c.2.needed then refuse
  set { l with candidates := l.candidates.filter fun c => !l.isStale c.2 }

/-- The candidate of the present depth is dropped. -/
def dropCandidate : Step Unit := do
  let l ← get
  match l.candidates.lookup l.depth with
  | some c =>
    if c.needed then refuse
    set { l with candidates := l.candidates.filter fun k => k.1 != l.depth }
  | none => return

/-- The next token may be a key. -/
def saveCandidate : Step Unit := do
  let l ← get
  if l.keyAllowed then
    dropCandidate
    let c : Candidate :=
      { number := l.produced.size, needed := !l.inFlow && l.indent == l.cursor.column,
        index := l.cursor.index, line := l.cursor.line, column := l.cursor.column }
    modify fun l => { l with candidates := (l.depth, c) :: l.candidates }

/-! ### Indentation -/

/-- Blocks that begin right of a column end. -/
def unwind (column : Int) : List Int → Step Unit
  | [] => return
  | outer :: rest => do
    let l ← get
    if !l.inFlow && column < l.indent then
      set { l with indent := outer, outer := rest }
      produce .blockEnd
      unwind column rest

/-- A block begins at a column, unless one is there already. -/
def indentTo (column : Int) : Step Bool := do
  let l ← get
  if l.indent < column then
    set { l with outer := l.indent :: l.outer, indent := column }
    return true
  else return false

/-! ### Single tokens -/

/-- All blocks end. -/
def unwindAll : Step Unit := do unwind (-1) (← get).outer

/-- The text ends. -/
def lexEnd : Step Unit := do
  unwindAll
  dropCandidate
  produce .streamEnd
  modify fun l => { l with keyAllowed := false, candidates := [], finished := true }

/-- A number in digits. -/
def directiveNumber : Reading Nat := do
  let digits ← takeChars isAsciiDigit
  if digits.isEmpty then badToken else return ofDigits 10 digits

/-- What a directive says. -/
def directive : Reading Directive := do
  forward 1
  let name ← takeChars isNameChar
  if name.isEmpty then badToken
  expectNext fun c => isBreakOrEnd c || c == ' '
  let d ←
    if name == "YAML".toList then do
      skipChars (· == ' ')
      let major ← directiveNumber
      expectNext (· == '.')
      forward 1
      let _ ← directiveNumber
      expectNext fun c => isBreakOrEnd c || c == ' '
      pure (Directive.version major)
    else if name == "TAG".toList then do
      skipChars (· == ' ')
      let handle ← tagHandle
      expectNext (· == ' ')
      skipChars (· == ' ')
      let address ← tagAddress
      expectNext fun c => isBreakOrEnd c || c == ' '
      pure (Directive.handle handle address)
    else do
      skipChars fun c => !isBreakOrEnd c
      pure Directive.unknown
  restOfLine
  return d

/-- A directive, before a document. -/
def lexDirective : Step Unit := do
  unwindAll
  dropCandidate
  allowKey false
  let d ← reading directive
  produce (.directive d)

/-- A mark between documents. -/
def lexSeparator (t : Token) : Step Unit := do
  unwindAll
  dropCandidate
  allowKey false
  advance 3
  produce t

/-- An opening bracket. -/
def lexOpen (t : Token) : Step Unit := do
  saveCandidate
  modify fun l => { l with depth := l.depth + 1 }
  allowKey true
  advance 1
  produce t

/-- A closing bracket. -/
def lexClose (t : Token) : Step Unit := do
  dropCandidate
  modify fun l => { l with depth := l.depth - 1 }
  allowKey false
  advance 1
  produce t

/-- A comma between brackets. -/
def lexComma : Step Unit := do
  allowKey true
  dropCandidate
  advance 1
  produce .flowEntry

/-- A block of a kind begins here, if none has begun at this column. -/
def openBlock (t : Token) : Step Unit := do
  if ← indentTo (← get).cursor.column then produce t

/-- The mark of an item in a block. -/
def lexItem : Step Unit := do
  if !(← get).inFlow then
    if !(← get).keyAllowed then refuse
    openBlock .blockSequence
  allowKey true
  dropCandidate
  advance 1
  produce .blockEntry

/-- The mark of a key. -/
def lexKey : Step Unit := do
  if !(← get).inFlow then
    if !(← get).keyAllowed then refuse
    openBlock .blockMapping
  allowKey !(← get).inFlow
  dropCandidate
  advance 1
  produce .key

/-- The candidate is a key, and a mapping begins before it if none has begun at its column. -/
def makeKey (c : Candidate) : Step Unit := do
  modify fun l =>
    { l with
      candidates := l.candidates.filter fun k => k.1 != l.depth
      produced := l.produced.insertIdxIfInBounds c.number .key }
  if !(← get).inFlow then
    if ← indentTo c.column then
      modify fun l =>
        { l with produced := l.produced.insertIdxIfInBounds c.number .blockMapping }
  allowKey false

/-- The mark of a value. The candidate of this depth is its key. -/
def lexValue : Step Unit := do
  let l ← get
  match l.candidates.lookup l.depth with
  -- The tokens of the key are there already; its mark is put in front of them.
  | some c => makeKey c
  | none =>
    if !l.inFlow then
      if !l.keyAllowed then refuse
      openBlock .blockMapping
    allowKey !l.inFlow
    dropCandidate
  advance 1
  produce .value

/-- The name of an anchor or alias. -/
def anchorName : Reading (List Char) := do
  forward 1
  let name ← takeChars isNameChar
  if name.isEmpty then badToken
  expectNext fun c => isSpaceOrEnd c || "?:,]%@`".toList.contains c || c == '\x7d'
  return name

/-- The handle and address of a tag. -/
def tagParts : Reading (Option (List Char) × List Char) := do
  let next ← peek 1
  let parts ←
    if next == '<' then do
      forward 2
      let address ← tagAddress
      expectNext (· == '>')
      forward 1
      pure (none, address)
    else if isSpaceOrEnd next then do
      forward 1
      pure (none, ['!'])
    else do
      let word := ((← get).rest.drop 1).takeWhile fun c => !(isBreakOrEnd c || c == ' ')
      let handle ← if word.contains '!' then tagHandle else do
        forward 1
        pure ['!']
      let address ← tagAddress
      pure (some handle, address)
  expectNext fun c => isBreakOrEnd c || c == ' '
  return parts

/-- A token that may be a key. -/
def lexCandidate (r : Reading Token) : Step Unit := do
  saveCandidate
  allowKey false
  let t ← reading r
  produce t

/-- A block of lines. -/
def lexBlock (folded : Bool) : Step Unit := do
  allowKey true
  dropCandidate
  let text ← reading (blockScalar folded (← get).indent)
  produce (.scalar false text)

/-- A plain scalar. A line break behind it allows keys again. -/
def lexPlain : Step Unit := do
  saveCandidate
  let l ← get
  let (text, broken) ← reading (plainScalar l.inFlow l.indent)
  allowKey broken
  produce (.scalar true text)

/-! ### The next token -/

/-- Blanks, comments and line breaks. A line break outside brackets allows keys again. -/
def skipToToken : Nat → Step Unit
  | 0 => return
  | fuel + 1 => do
    reading (skipChars (· == ' '))
    if (← get).cursor.peek 0 == '#' then reading (skipChars fun c => !isBreakOrEnd c)
    let b ← reading lineBreak
    -- Inside brackets a line break is a blank like others.
    if !b.isEmpty then
      if !(← get).inFlow then allowKey true
      skipToToken fuel

/-- Whether a plain scalar begins with a character, of which the next one is known. -/
def beginsPlain (flow : Bool) (c next : Char) : Bool :=
  let mark := isFlowMark c || "#&*!|>'\"%@`".toList.contains c
  !(isSpaceOrEnd c || mark || c == '-' || c == '?' || c == ':') ||
  (!isSpaceOrEnd next && (c == '-' || (!flow && (c == '?' || c == ':'))))

/-- Whether the first column holds three of a mark and nothing more. -/
def atMark (l : Lexer) (mark : Char) : Bool :=
  l.cursor.column == 0 && l.cursor.startsWith [mark, mark, mark] && isSpaceOrEnd (l.cursor.peek 3)

/-- The token that begins with the next character. -/
def lexToken : Step Unit := do
  let l ← get
  let c := l.cursor.peek 0
  let next := l.cursor.peek 1
  let flow := l.inFlow
  let spaced := isSpaceOrEnd next
  if c == endMark then lexEnd
  else if c == '%' && l.cursor.column == 0 then lexDirective
  else if c == '-' && l.atMark '-' then lexSeparator .documentStart
  else if c == '.' && l.atMark '.' then lexSeparator .documentEnd
  else if c == '[' then lexOpen .sequenceOpen
  else if c == '\x7b' then lexOpen .mappingOpen
  else if c == ']' then lexClose .sequenceClose
  else if c == '\x7d' then lexClose .mappingClose
  else if c == ',' then lexComma
  else if c == '-' && spaced then lexItem
  else if c == '?' && (flow || spaced) then lexKey
  else if c == ':' && (flow || spaced) then lexValue
  else if c == '*' then lexCandidate do return .alias (← anchorName)
  else if c == '&' then lexCandidate do return .anchor (← anchorName)
  else if c == '!' then lexCandidate do
    let (handle, address) ← tagParts
    return .tag handle address
  else if c == '|' && !flow then lexBlock false
  else if c == '>' && !flow then lexBlock true
  else if c == '\'' || c == '"' then lexCandidate do return .scalar false (← quotedScalar c)
  else if beginsPlain flow c next then lexPlain
  else refuse

/-- The next tokens. -/
def next : Step Unit := do
  let l ← get
  if l.cursor.index == 0 && l.cursor.peek 0 == '\uFEFF' then advance 1
  skipToToken (l.cursor.rest.length + 1)
  dropStale
  let l ← get
  -- What stands further left than a block ends it.
  unwind l.cursor.column l.outer
  lexToken

/-- How many of the tokens can be delivered: those before the first one that may be a key. -/
def settled (l : Lexer) : Nat :=
  l.candidates.foldl (fun n c => min n c.2.number) l.produced.size

/-- Reads on to the end. A fault comes with the tokens that were delivered before it. -/
def readAll (l : Lexer) : Nat → Array Token × Option Failure
  | 0 => (l.produced, none)
  | fuel + 1 =>
    if l.finished then (l.produced, none)
    else match (do next; dropStale : Step Unit).run l with
      | .ok (_, l') => l'.readAll fuel
      -- A reader of tokens never saw those that might still have become keys.
      | .error f => (l.produced.extract 0 l.settled, some f)

end Lexer

/-- The tokens of a text, and the fault that ends them, if there is one. -/
def tokens (text : List Char) : List Token × Option Failure :=
  let l : Lexer := { cursor := { rest := text } }
  let (ts, fault) := l.readAll (text.length + 2)
  (ts.toList, fault)

end TextCriteria.Document
