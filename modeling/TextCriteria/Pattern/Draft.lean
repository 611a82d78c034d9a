import TextCriteria.Pattern.Lexeme

namespace TextCriteria.Pattern

/-!
# Building the tree of a pattern

Lexemes are added one by one to a draft, which keeps the parentheses that are open and, for each of
them, what has been read inside.

* `Draft` — the pattern so far; `Draft.push` adds a lexeme.
* `Draft.readAll` — the draft after all lexemes of a text.
* `readTree` — the tree of a text, with its number of groups and the flags it asks for.
-/

/-- What an open parenthesis will become. -/
inductive Opened
  | whole
  | capture (index : Nat)
  | scoped (change : ModeChange)
  | atomic
  | look (behind negative : Bool) (outerLimit : Option Nat)
  | conditional (index : Nat) (yes : Option Regex)
  deriving Repr

/-- An open parenthesis: its place, whether layout is free inside, the branches that are complete and
    the items of the current one, the last first. -/
structure Frame where
  opened : Opened
  left : Nat
  verbose : Bool
  branches : List Regex := []
  items : List Regex := []
  deriving Repr

/-- The items of the current branch as one pattern. -/
def Frame.branch (f : Frame) : Regex :=
  Regex.ofItems f.items.reverse

/-- Everything read inside a parenthesis as one pattern. -/
def Frame.body (f : Frame) : Regex :=
  match (f.branch :: f.branches).reverse with
  | [] => .empty
  | r :: rest => Regex.ofBranches r rest

/-- A pattern that is being read. -/
structure Draft where
  /-- The innermost open parenthesis, and those around it from the inside out. -/
  frame : Frame
  outer : List Frame := []
  /-- How many groups have been opened. -/
  groups : Nat := 0
  names : List (List Char × Nat) := []
  /-- The widths of the groups that have been closed. -/
  closed : List (Nat × Width) := []
  /-- Inside a look behind: the first group number that was opened there. -/
  limit : Option Nat := none
  /-- The group numbers that conditionals ask for, with the places where they do, the last first. -/
  asked : List (Nat × Nat) := []
  /-- The letters of flags for the whole pattern. -/
  globals : List Char := []
  deriving Repr

namespace Draft

/-- Nothing read yet. -/
def start (verbose : Bool) (length : Nat) : Draft :=
  { frame := { opened := .whole, left := length, verbose := verbose } }

/-- The same draft with another innermost parenthesis. -/
def withItem (d : Draft) (r : Regex) : Draft :=
  { d with frame := { d.frame with items := r :: d.frame.items } }

/-- Whether a group has been closed. -/
def isClosed (d : Draft) (index : Nat) : Bool :=
  (d.closed.lookup index).isSome

/-- The width of a closed group. -/
def groupWidth (d : Draft) (index : Nat) : Width :=
  (d.closed.lookup index).getD .zero

/-- A look behind may refer only to groups that were closed before it began. -/
def checkLimit (d : Draft) (index after : Nat) : Outcome Unit :=
  match d.limit with
  | none => .ok ()
  | some limit =>
    if !d.isClosed index then fault .groupStillOpen after
    else if limit ≤ index then fault .groupInLookbehind after
    else .ok ()

/-- Adds a reference to a group. -/
def pushReference (d : Draft) (ref : GroupRef) (left after : Nat) : Outcome Draft :=
  match ref with
  | .number index =>
    -- Places count from the end of the text, since that is where the reader stands.
    if d.groups < index then fault (.invalidGroup index) (left - 1)
    else if !d.isClosed index then fault .groupStillOpen left
    else do
      d.checkLimit index after
      .ok (d.withItem (.backref index))
  | .name name =>
    let place := after + name.length + 1
    match d.names.lookup name with
    | none => fault (.unknownGroup name) place
    | some index =>
      if !d.isClosed index then fault .groupStillOpen place
      else do
        d.checkLimit index after
        .ok (d.withItem (.backref index))

/-- Applies a repeat mark to the last item. -/
def pushRounds (d : Draft) (greed : Greed) (least : Nat) (most : Option Nat) (left : Nat) :
    Outcome Draft :=
  match d.frame.items with
  | [] => fault .nothingToRepeat left
  | item :: items =>
    match item.repeatable with
    | .place => fault .nothingToRepeat left
    | .repetition => fault .multipleRepeat left
    | .yes =>
      .ok { d with frame := { d.frame with items := .rounds greed least most item :: items } }

/-- Ends the current branch. A conditional has two at most. -/
def pushBar (d : Draft) (left : Nat) : Outcome Draft :=
  match d.frame.opened with
  | .conditional index none =>
    .ok { d with
      frame := { d.frame with opened := .conditional index (some d.frame.branch), items := [] } }
  | .conditional _ (some _) => fault .thirdBranch left
  | _ =>
    .ok { d with
      frame := { d.frame with branches := d.frame.branch :: d.frame.branches, items := [] } }

/-- The draft inside a new parenthesis. -/
def enter (d : Draft) (opened : Opened) (verbose : Bool) (left : Nat) : Draft :=
  { d with frame := { opened := opened, left := left, verbose := verbose }
           outer := d.frame :: d.outer }

/-- Opens a parenthesis. -/
def pushOpening (d : Draft) (what : Opening) (left after : Nat) : Outcome Draft :=
  let verbose := d.frame.verbose
  match what with
  | .capture none =>
    .ok ({ d with groups := d.groups + 1 }.enter (.capture (d.groups + 1)) verbose left)
  | .capture (some name) =>
    match d.names.lookup name with
    | some first => fault (.groupDefinedTwice name (d.groups + 1) first) (after + name.length + 1)
    | none =>
      .ok ({ d with groups := d.groups + 1, names := (name, d.groups + 1) :: d.names }.enter
        (.capture (d.groups + 1)) verbose left)
  | .scoped change => .ok (d.enter (.scoped change) (change.verbose.getD verbose) left)
  | .atomic => .ok (d.enter .atomic verbose left)
  | .look behind negative =>
    -- Of nested looks behind the outermost one sets the limit.
    let inner := if behind && d.limit.isNone then some (d.groups + 1) else d.limit
    .ok ({ d with limit := inner }.enter (.look behind negative d.limit) verbose left)
  | .conditional (.name name) =>
    match d.names.lookup name with
    | none => fault (.unknownGroup name) (left - 3)
    | some index => do
      d.checkLimit index after
      .ok (d.enter (.conditional index none) verbose left)
  | .conditional (.number index) => do
    -- The group may come later, so whether it exists is decided at the end.
    let known := d.asked.any fun a => a.1 == index
    let d' := if known then d else { d with asked := (index, left - 3) :: d.asked }
    d'.checkLimit index after
    .ok (d'.enter (.conditional index none) verbose left)

/-- Closes the innermost parenthesis. -/
def pushClosing (d : Draft) (left : Nat) : Outcome Draft :=
  match d.outer with
  | [] => fault .unbalanced left
  | frame :: outer =>
    let body := d.frame.body
    let d' := { d with frame := frame, outer := outer }
    match d.frame.opened with
    | .whole => fault .unbalanced left
    | .capture index =>
      .ok ({ d' with closed := (index, body.width d.groupWidth) :: d.closed }.withItem
        (.group index body))
    | .scoped change => .ok (d'.withItem (.scoped change body))
    | .atomic => .ok (d'.withItem (.atomic body))
    | .look false negative outerLimit =>
      .ok ({ d' with limit := outerLimit }.withItem (.lookahead negative body))
    | .look true negative outerLimit =>
      .ok ({ d' with limit := outerLimit }.withItem
        (.lookbehind negative (body.width d.groupWidth) body))
    | .conditional index none => .ok (d'.withItem (.conditional index d.frame.branch .empty))
    | .conditional index (some yes) => .ok (d'.withItem (.conditional index yes d.frame.branch))

/-- Flags for the whole pattern stand before everything else. -/
def pushGlobals (d : Draft) (letters : List Char) (left : Nat) : Outcome Draft :=
  if d.outer.isEmpty && d.frame.branches.isEmpty && d.frame.items.isEmpty then
    .ok { d with globals := d.globals ++ letters
                 frame := { d.frame with verbose := d.frame.verbose || letters.contains 'x' } }
  else fault .globalFlagsLate left

/-- Adds a lexeme. `left` and `after` count the characters from its first one and after its last one
    to the end of the text. -/
def push (d : Draft) (lexeme : Lexeme) (left after : Nat) : Outcome Draft :=
  match lexeme with
  | .skip => .ok d
  | .item r => .ok (d.withItem r)
  | .reference ref => d.pushReference ref left after
  | .rounds greed least most => d.pushRounds greed least most left
  | .bar => d.pushBar left
  | .opening what => d.pushOpening what left after
  | .closing => d.pushClosing left
  | .globalFlags letters => d.pushGlobals letters left

/-- Adds the lexemes of a text, at most as many as the first argument says. -/
def readSome : Nat → Draft → List Char → Outcome Draft
  | _, d, [] => .ok d
  | 0, d, _ => .ok d
  | fuel + 1, d, c :: rest => do
    let (lexeme, rest') ← readLexeme d.frame.verbose c rest
    let d' ← d.push lexeme (rest.length + 1) rest'.length
    readSome fuel d' rest'

/-- Adds all lexemes of a text. -/
def readAll (d : Draft) (text : List Char) : Outcome Draft :=
  readSome text.length d text

/-- A pattern is complete when no parenthesis is open. -/
def finish (d : Draft) : Outcome Regex :=
  match d.outer with
  | [] => .ok d.frame.body
  | _ :: _ => fault .unterminatedGroup d.frame.left

/-- The first group number that a conditional asks for and that no group has. -/
def missingGroup? (d : Draft) : Option (Nat × Nat) :=
  d.asked.reverse.find? fun a => d.groups < a.1

end Draft

end TextCriteria.Pattern
