import Mathlib.Data.List.Basic
import TextCriteria.Pattern.Matching

namespace TextCriteria.Pattern

/-!
# The ways to match

A tree can be matched at a place in several ways. A match tries them in order, and the first one from which
the rest of the pattern leads to an end counts.

* `Regex.ways` — the places at which a match of a tree may stop, in the order in which they are tried.
* `Tries` — a part of a match tries some ways in order.
* `Regex.run_tries` — a match tries the ways of its tree.
* `Regex.isSome_run_iff` — it succeeds exactly if the rest of the pattern succeeds after one of them.
* `Regex.mem_ways_cons`, `Regex.mem_ways_exactly` — the ways of items in a row and of a number of rounds.
-/

/-! ### Ways -/

section Rounds

variable (ways : Place → List Place)

/-- The ways of `n` rounds. -/
def timesWays : Nat → Place → List Place
  | 0, p => [p]
  | n + 1, p => (ways p).flatMap (timesWays n)

/-- The ways of further rounds: those with one more round come before stopping here. -/
def greedyWays : Nat → Option Nat → Option Nat → Place → List Place
  | 0, _, _, p => [p]
  | fuel + 1, left, last, p =>
    if roundsOver left last p then [p]
    else (ways p).flatMap (greedyWays fuel (left.map (· - 1)) (some p.pos)) ++ [p]

/-- The ways of further rounds: stopping here comes before those with one more round. -/
def reluctantWays : Nat → Option Nat → Option Nat → Place → List Place
  | 0, _, _, p => [p]
  | fuel + 1, left, last, p =>
    p :: if roundsOver left last p then []
      else (ways p).flatMap (reluctantWays fuel (left.map (· - 1)) (some p.pos))

/-- The place after `n` rounds that are each matched in their first way. -/
def firstTimes : Nat → Place → Option Place
  | 0, p => some p
  | n + 1, p => (ways p).head?.bind (firstTimes n)

/-- The place after as many further rounds as possible, each matched in its first way. -/
def firstRounds : Nat → Option Nat → Option Nat → Place → Place
  | 0, _, _, p => p
  | fuel + 1, left, last, p =>
    if roundsOver left last p then p
    else match (ways p).head? with
      | some q => firstRounds fuel (left.map (· - 1)) (some p.pos) q
      | none => p

end Rounds

/-- The one way over a character that passes a test. -/
def oneWays (text : Array Char) (test : Nat → Bool) (p : Place) : List Place :=
  match text[p.pos]? with
  | some c => if test c.toNat then [p.advance 1] else []
  | none => []

/-- The ways to match a tree at a place, in order: where each of them stops, with the marks made on it. -/
def Regex.ways (text : Array Char) : Regex → Modes → Place → List Place
  | .empty, _, p => [p]
  | .char c, m, p => oneWays text (agree m c) p
  | .any, m, p => oneWays text (fun x => m.dotAll || x != 10) p
  | .oneOf negated members, m, p => oneWays text (admitsClass m negated members) p
  | .anchor a, m, p => if a.holds text m p.pos then [p] else []
  | .seq a b, m, p => (a.ways text m p).flatMap (b.ways text m)
  | .alt a b, m, p => a.ways text m p ++ b.ways text m p
  | .group i a, m, p =>
    (a.ways text m { p with marks := p.marks.enter i p.pos }).map fun q =>
      { q with marks := q.marks.leave i q.pos }
  | .scoped change a, m, p => a.ways text (m.apply change) p
  -- What is atomic or looked at is matched in its first way only.
  | .atomic a, m, p => (a.ways text m p).take 1
  | .lookahead false a, m, p => ((a.ways text m p).take 1).map fun q => { q with pos := p.pos }
  | .lookahead true a, m, p => if (a.ways text m p).isEmpty then [p] else []
  | .lookbehind false w a, m, p =>
    if p.pos < w.least then []
    else ((a.ways text m { p with pos := p.pos - w.least }).take 1).map fun q => { q with pos := p.pos }
  | .lookbehind true w a, m, p =>
    if p.pos < w.least then [p]
    else if (a.ways text m { p with pos := p.pos - w.least }).isEmpty then [p] else []
  | .backref i, m, p =>
    match p.marks.span? i with
    | some (a, b) => if sameText text m (b - a) a p.pos then [p.advance (b - a)] else []
    | none => []
  | .conditional i yes no, m, p =>
    match p.marks.span? i with
    | some _ => yes.ways text m p
    | none => no.ways text m p
  | .rounds greed least most a, m, p =>
    let left := most.map (· - least)
    match greed with
    | .greedy =>
      (timesWays (a.ways text m) least p).flatMap fun q =>
        greedyWays (a.ways text m) (text.size - q.pos + 1) left none q
    | .reluctant =>
      (timesWays (a.ways text m) least p).flatMap fun q =>
        reluctantWays (a.ways text m) (text.size - q.pos + 1) left none q
    | .possessive =>
      (firstTimes (a.ways text m) least p).toList.map fun q =>
        firstRounds (a.ways text m) (text.size - q.pos + 1) left none q

/-! ### Trying in order -/

/-- A part of a match tries some ways in order, until the rest of the pattern leads to an end. -/
def Tries (part : Rest → Rest) (ways : Place → List Place) : Prop :=
  ∀ k p, part k p = (ways p).findSome? k

section Order

variable {α β γ : Type}

/-- To try some things that are tried in order themselves is to try all of them in order. -/
theorem findSome?_flatMap {f : α → List β} {g : α → Option γ} {k : β → Option γ}
    (h : ∀ x, g x = (f x).findSome? k) (l : List α) : l.findSome? g = (l.flatMap f).findSome? k := by
  induction l with
  | nil => rfl
  | cons x rest ih =>
    rw [List.flatMap_cons, List.findSome?_append, ← ih, List.findSome?_cons, h]
    cases (f x).findSome? k <;> rfl

theorem findSome?_take_one (l : List α) (k : α → Option β) :
    (l.take 1).findSome? k = l.head?.bind k := by
  cases l with
  | nil => rfl
  | cons x rest => cases hk : k x <;> simp [hk]

end Order

/-- Without a rest, the first way counts. -/
theorem Tries.first {part : Rest → Rest} {ways : Place → List Place} (h : Tries part ways) (p : Place) :
    part some p = (ways p).head? := by
  rw [h]
  cases ways p <;> rfl

theorem one_tries (text : Array Char) (test : Nat → Bool) : Tries (one text test) (oneWays text test) := by
  intro k p
  unfold one oneWays
  cases text[p.pos]? with
  | none => rfl
  | some c => cases htest : test c.toNat <;> simp [htest]

section Rounds

variable {round : Rest → Rest} {ways : Place → List Place}

theorem times_tries (h : Tries round ways) (n : Nat) : Tries (times round n) (timesWays ways n) := by
  induction n with
  | zero => simp [Tries, times, timesWays]
  | succ n ih =>
    intro k p
    rw [times, timesWays, h]
    exact findSome?_flatMap (ih k) _

theorem greedyRounds_tries (h : Tries round ways) (fuel : Nat) (left last : Option Nat) :
    Tries (fun k => greedyRounds round k fuel left last) (greedyWays ways fuel left last) := by
  -- The fuel of both is the same. What is left of the bound and the last place change with each round.
  induction fuel generalizing left last with
  | zero => simp [Tries, greedyRounds, greedyWays]
  | succ fuel ih =>
    intro k p
    have hmore : round (greedyRounds round k fuel (left.map (· - 1)) (some p.pos)) p
        = ((ways p).flatMap (greedyWays ways fuel (left.map (· - 1)) (some p.pos))).findSome? k := by
      rw [h]
      exact findSome?_flatMap (ih _ _ k) _
    simp only [greedyRounds, greedyWays, hmore]
    split
    · simp
    · rw [List.findSome?_append]
      cases ((ways p).flatMap (greedyWays ways fuel (left.map (· - 1)) (some p.pos))).findSome? k <;> simp

theorem reluctantRounds_tries (h : Tries round ways) (fuel : Nat) (left last : Option Nat) :
    Tries (fun k => reluctantRounds round k fuel left last) (reluctantWays ways fuel left last) := by
  induction fuel generalizing left last with
  | zero => simp [Tries, reluctantRounds, reluctantWays]
  | succ fuel ih =>
    intro k p
    have hmore : round (reluctantRounds round k fuel (left.map (· - 1)) (some p.pos)) p
        = ((ways p).flatMap (reluctantWays ways fuel (left.map (· - 1)) (some p.pos))).findSome? k := by
      rw [h]
      exact findSome?_flatMap (ih _ _ k) _
    simp only [reluctantRounds, reluctantWays, List.findSome?_cons, hmore]
    -- Only where the rest fails right here, the guard on further rounds is looked at.
    cases k p with
    | some q => rfl
    | none => cases roundsOver left last p <;> rfl

theorem timesSettled_eq (h : Tries round ways) (n : Nat) (p : Place) :
    timesSettled round n p = firstTimes ways n p := by
  induction n generalizing p with
  | zero => rfl
  | succ n ih =>
    rw [timesSettled, firstTimes, h.first]
    cases (ways p).head? with
    | some q => exact ih q
    | none => rfl

theorem possessiveRounds_eq (h : Tries round ways) (fuel : Nat) (left last : Option Nat) (p : Place) :
    possessiveRounds round fuel left last p = firstRounds ways fuel left last p := by
  induction fuel generalizing left last p with
  | zero => rfl
  | succ fuel ih =>
    rw [possessiveRounds, firstRounds, h.first]
    split
    · rfl
    · cases (ways p).head? with
      | some q => exact ih _ _ q
      | none => rfl

end Rounds

/-! ### Trees -/

/-- **Matches.** A match tries the ways of its tree in order. -/
theorem Regex.run_tries (text : Array Char) (r : Regex) (m : Modes) :
    Tries (r.run text m) (r.ways text m) := by
  -- A scoped group changes the modes for what is in it, so these are not fixed.
  induction r generalizing m with
  | empty => simp [Tries, run, ways]
  | char c => exact one_tries text (agree m c)
  | any => exact one_tries text fun x => m.dotAll || x != 10
  | oneOf negated members => exact one_tries text (admitsClass m negated members)
  | anchor a =>
    intro k p
    rw [run, ways]
    split <;> simp
  | seq a b iha ihb =>
    intro k p
    rw [run, ways, iha]
    exact findSome?_flatMap (ihb m k) _
  | alt a b iha ihb =>
    intro k p
    rw [run, ways, iha, ihb, List.findSome?_append]
    cases (a.ways text m p).findSome? k <;> rfl
  | group i a ih =>
    intro k p
    rw [run, ways, ih, List.findSome?_map]
    rfl
  | «scoped» change a ih => exact ih (m.apply change)
  | atomic a ih =>
    intro k p
    rw [run, ways, (ih m).first, findSome?_take_one]
    cases (a.ways text m p).head? <;> rfl
  | lookahead negative a ih =>
    -- What is looked at is matched without a rest, so its first way decides.
    intro k p
    cases negative with
    | false =>
      rw [run, ways, (ih m).first, List.findSome?_map, findSome?_take_one]
      cases (a.ways text m p).head? <;> rfl
    | true =>
      rw [run, ways, (ih m).first]
      cases a.ways text m p <;> simp
  | lookbehind negative w a ih =>
    intro k p
    cases negative with
    | false =>
      rw [run, ways]
      split
      · rfl
      · rw [(ih m).first, List.findSome?_map, findSome?_take_one]
        cases (a.ways text m { p with pos := p.pos - w.least }).head? <;> rfl
    | true =>
      rw [run, ways]
      split
      · simp
      · rw [(ih m).first]
        cases a.ways text m { p with pos := p.pos - w.least } <;> simp
  | backref i =>
    intro k p
    rw [run, ways]
    cases p.marks.span? i with
    | none => rfl
    | some span => cases hsame : sameText text m (span.2 - span.1) span.1 p.pos <;> simp [hsame]
  | conditional i a b iha ihb =>
    intro k p
    rw [run, ways]
    cases p.marks.span? i with
    | none => exact ihb m k p
    | some span => exact iha m k p
  | rounds greed least most a ih =>
    have hround : Tries (fun k q => a.run text m k q) (a.ways text m) := ih m
    intro k p
    cases greed with
    | greedy =>
      rw [run, ways, times_tries hround]
      exact findSome?_flatMap (fun q => greedyRounds_tries hround _ _ _ k q) _
    | reluctant =>
      rw [run, ways, times_tries hround]
      exact findSome?_flatMap (fun q => reluctantRounds_tries hround _ _ _ k q) _
    | possessive =>
      rw [run, ways, timesSettled_eq hround, List.findSome?_map]
      cases firstTimes (a.ways text m) least p with
      | some q => simp [possessiveRounds_eq hround]
      | none => rfl

/-- **Success.** A match succeeds exactly if the rest of the pattern does after one of the ways of its tree. -/
theorem Regex.isSome_run_iff {text : Array Char} {r : Regex} {m : Modes} {k : Rest} {p : Place} :
    (r.run text m k p).isSome = true ↔ ∃ q ∈ r.ways text m p, (k q).isSome = true := by
  rw [r.run_tries text m, List.findSome?_isSome_iff]

/-! ### Single characters, items in a row and a fixed number of rounds -/

section Membership

variable {text : Array Char} {m : Modes} {r : Regex} {p q : Place}

theorem Regex.ways_any (text : Array Char) (m : Modes) :
    Regex.any.ways text m = oneWays text fun x => m.dotAll || x != 10 := rfl

theorem Regex.ways_oneOf (text : Array Char) (m : Modes) (negated : Bool) (members : List ClassMember) :
    (Regex.oneOf negated members).ways text m = oneWays text (admitsClass m negated members) := rfl

@[simp] theorem Regex.mem_ways_nil : q ∈ (Regex.ofItems []).ways text m p ↔ q = p := List.mem_singleton

/-- The ways of items in a row: those of the others behind a way of the first one. -/
@[simp] theorem Regex.mem_ways_cons {rest : List Regex} : q ∈ (Regex.ofItems (r :: rest)).ways text m p ↔
    ∃ p' ∈ r.ways text m p, q ∈ (Regex.ofItems rest).ways text m p' := List.mem_flatMap

/-- Where the bounds agree, no further rounds are tried. -/
theorem Regex.mem_ways_exactly {n : Nat} :
    q ∈ (Regex.rounds .greedy n (some n) r).ways text m p ↔ q ∈ timesWays (r.ways text m) n p := by
  have hover (p' : Place) : roundsOver ((some n).map (· - n)) none p' = true := by simp [roundsOver]
  simp only [ways, List.mem_flatMap, greedyWays, hover, if_true, List.mem_singleton]
  exact ⟨fun ⟨p', hp', hq⟩ => hq ▸ hp', fun h => ⟨q, h, rfl⟩⟩

end Membership

end TextCriteria.Pattern
