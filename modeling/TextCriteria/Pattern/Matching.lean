import TextCriteria.Pattern.Regex

namespace TextCriteria.Pattern

open TextCriteria.Text

/-!
# Matching

A tree is matched at a place in a text by trying its choices in order and going on with the rest of
the pattern after each; the first way that reaches the end counts.

* `Marks` — where groups begin and end.
* `Place` — a position with the marks made on the way to it.
* `Regex.run` — the match itself, with the rest of the pattern as a continuation.
* `Regex.matchAt` — where the first match at a position ends.

Rounds of a repetition beyond the least number stop after one that took no character, so every loop
is bounded by the length of the text.
-/

/-- Where groups begin and end. A group that is entered again keeps its old end until it is left. -/
structure Marks where
  starts : List (Nat × Nat) := []
  stops : List (Nat × Nat) := []
  deriving Repr

namespace Marks

/-- An association in place of any older one. -/
def put (entries : List (Nat × Nat)) (index pos : Nat) : List (Nat × Nat) :=
  (index, pos) :: entries.filter fun e => e.1 != index

def enter (m : Marks) (index pos : Nat) : Marks := { m with starts := put m.starts index pos }

def leave (m : Marks) (index pos : Nat) : Marks := { m with stops := put m.stops index pos }

/-- The extent of a group that took part. -/
def span? (m : Marks) (index : Nat) : Option (Nat × Nat) :=
  match m.starts.lookup index, m.stops.lookup index with
  | some a, some b => if a ≤ b then some (a, b) else none
  | _, _ => none

end Marks

/-- A position in the text with the marks made on the way. -/
structure Place where
  pos : Nat
  marks : Marks := {}
  deriving Repr

/-- The place after `n` more characters. -/
def Place.advance (p : Place) (n : Nat) : Place := { p with pos := p.pos + n }

/-- The rest of a pattern: where it ends when it begins at a place. -/
abbrev Rest := Place → Option Place

/-! ### Characters and places -/

/-- The end of a line. -/
def isLineBreak (c : Char) : Bool := c == '\n'

/-- Whether the character at a position, if there is one, belongs to a word. -/
def wordAt (text : Array Char) (m : Modes) (i : Nat) : Bool :=
  match text[i]? with
  | some c => Category.word.holds m.ascii c.toNat
  | none => false

/-- Whether there is a line break at a position. -/
def lineBreakAt (text : Array Char) (i : Nat) : Bool :=
  match text[i]? with
  | some c => isLineBreak c
  | none => false

/-- Whether a word begins or ends at a position. -/
def atBoundary (text : Array Char) (m : Modes) (i : Nat) : Bool :=
  (0 < i && wordAt text m (i - 1)) != wordAt text m i

/-- Whether a position is the place that an anchor asks for. In an empty text there is neither a
    boundary nor an inside. -/
def Anchor.holds (text : Array Char) (m : Modes) (i : Nat) : Anchor → Bool
  | .lineStart => i == 0 || (m.multiline && lineBreakAt text (i - 1))
  | .lineEnd =>
    i == text.size || (i + 1 == text.size && lineBreakAt text i) ||
      (m.multiline && lineBreakAt text i)
  | .textStart => i == 0
  | .textEnd => i == text.size
  | .boundary => text.size != 0 && atBoundary text m i
  | .inside => text.size != 0 && !atBoundary text m i

/-- Goes on after one character that satisfies a test. -/
def one (text : Array Char) (test : Nat → Bool) (k : Rest) (p : Place) : Option Place :=
  match text[p.pos]? with
  | some c => if test c.toNat then k (p.advance 1) else none
  | none => none

/-- Whether `n` characters from two positions on agree. -/
def sameText (text : Array Char) (m : Modes) : Nat → Nat → Nat → Bool
  | 0, _, _ => true
  | n + 1, i, j =>
    match text[i]?, text[j]? with
    | some a, some b => fold m a.toNat == fold m b.toNat && sameText text m n (i + 1) (j + 1)
    | _, _ => false

/-! ### Rounds -/

/-- Exactly `n` rounds. -/
def times (round : Rest → Rest) : Nat → Rest → Rest
  | 0, k, p => k p
  | n + 1, k, p => round (times round n k) p

/-- Whether no further round is tried: the bound is reached, or the last round took nothing. -/
def roundsOver (left last : Option Nat) (p : Place) : Bool :=
  left == some 0 || last == some p.pos

/-- Further rounds, as many as possible first. -/
def greedyRounds (round : Rest → Rest) (k : Rest) : Nat → Option Nat → Option Nat → Rest
  | 0, _, _, p => k p
  | fuel + 1, left, last, p =>
    -- A round that took nothing would repeat itself for ever.
    if roundsOver left last p then k p
    else match round (greedyRounds round k fuel (left.map (· - 1)) (some p.pos)) p with
      | some q => some q
      | none => k p

/-- Further rounds, as few as possible first. -/
def reluctantRounds (round : Rest → Rest) (k : Rest) : Nat → Option Nat → Option Nat → Rest
  | 0, _, _, p => k p
  | fuel + 1, left, last, p =>
    match k p with
    | some q => some q
    | none =>
      if roundsOver left last p then none
      else round (reluctantRounds round k fuel (left.map (· - 1)) (some p.pos)) p

/-- Further rounds, as many as possible and never fewer. -/
def possessiveRounds (round : Rest → Rest) : Nat → Option Nat → Option Nat → Place → Place
  | 0, _, _, p => p
  | fuel + 1, left, last, p =>
    if roundsOver left last p then p
    else match round some p with
      | some q => possessiveRounds round fuel (left.map (· - 1)) (some p.pos) q
      | none => p

/-- Exactly `n` rounds, each one settled before the next. -/
def timesSettled (round : Rest → Rest) : Nat → Place → Option Place
  | 0, p => some p
  | n + 1, p =>
    match round some p with
    | some q => timesSettled round n q
    | none => none

/-! ### Trees -/

/-- Matches a tree at a place and goes on with the rest of the pattern. -/
def Regex.run (text : Array Char) : Regex → Modes → Rest → Place → Option Place
  | .empty, _, k, p => k p
  | .char c, m, k, p => one text (agree m c) k p
  | .any, m, k, p => one text (fun x => m.dotAll || x != 10) k p
  | .oneOf negated members, m, k, p => one text (admitsClass m negated members) k p
  | .anchor a, m, k, p => if a.holds text m p.pos then k p else none
  | .seq a b, m, k, p => a.run text m (b.run text m k) p
  | .alt a b, m, k, p =>
    match a.run text m k p with
    | some q => some q
    | none => b.run text m k p
  -- The marks are set on the way, so a choice that is given up takes its marks with it.
  | .group i a, m, k, p =>
    a.run text m (fun q => k { q with marks := q.marks.leave i q.pos })
      { p with marks := p.marks.enter i p.pos }
  | .scoped change a, m, k, p => a.run text (m.apply change) k p
  | .atomic a, m, k, p =>
    match a.run text m some p with
    | some q => k q
    | none => none
  | .lookahead false a, m, k, p =>
    match a.run text m some p with
    -- Marks made while looking ahead stay, the position does not.
    | some q => k { q with pos := p.pos }
    | none => none
  | .lookahead true a, m, k, p =>
    match a.run text m some p with
    | some _ => none
    | none => k p
  | .lookbehind false w a, m, k, p =>
    if p.pos < w.least then none
    else match a.run text m some { p with pos := p.pos - w.least } with
      | some q => k { q with pos := p.pos }
      | none => none
  | .lookbehind true w a, m, k, p =>
    if p.pos < w.least then k p
    else match a.run text m some { p with pos := p.pos - w.least } with
      | some _ => none
      | none => k p
  | .backref i, m, k, p =>
    match p.marks.span? i with
    | some (a, b) => if sameText text m (b - a) a p.pos then k (p.advance (b - a)) else none
    | none => none
  | .conditional i yes no, m, k, p =>
    match p.marks.span? i with
    | some _ => yes.run text m k p
    | none => no.run text m k p
  | .rounds greed least most a, m, k, p =>
    -- The rounds that have to be come first; what is left of the bound is for the others.
    let left := most.map (· - least)
    match greed with
    | .greedy =>
      times (fun k q => a.run text m k q) least
        (fun q => greedyRounds (fun k q => a.run text m k q) k (text.size - q.pos + 1) left none q) p
    | .reluctant =>
      times (fun k q => a.run text m k q) least
        (fun q => reluctantRounds (fun k q => a.run text m k q) k (text.size - q.pos + 1) left none q) p
    | .possessive =>
      match timesSettled (fun k q => a.run text m k q) least p with
      | some q =>
        k (possessiveRounds (fun k q => a.run text m k q) (text.size - q.pos + 1) left none q)
      | none => none

/-- The end of the first match that begins at a position. -/
def Regex.matchAt (r : Regex) (text : Array Char) (m : Modes) (i : Nat) : Option Nat :=
  (r.run text m some { pos := i }).map (·.pos)

end TextCriteria.Pattern
